/-
  SealedPages.Proofs.PairedSessions
  ─────────────────────────────────
  **THE SAME STEP IN TWO SCRIPTS.**  Two scripts do the same with a slot, except that
  they may write different data.  If the operations of their buffers are coupled, then
  the steps answer alike, and both sessions change alike: in that slot, by buffers that
  differ in the number of their region only.

  How far the data may differ is said by a `Likeness` of bytes.

  Main statements:
    * `BufferScript.act_coupled` — the operations of a script of buffers;
    * `Handle.store_coupled`, `Handle.retrieve_coupled` — the functions of the C
      interface;
    * `HandleScript.act_coupled` — the steps of a script of handles;
    * `letGoAll_coupled`, `destroyAll_coupled` — what is given up at the end.
-/
import SealedPages.Proofs.PairedCalls
import SealedPages.Proofs.Sessions

namespace SealedPages

/-! ## §1. How far bytes may differ. -/

/-- **A likeness of bytes**: bytes that are alike have the same length, and stay alike
when the same part of them is taken or overwritten alike. -/
structure Likeness (S : Bytes → Bytes → Prop) : Prop where
  refl : ∀ bytes, S bytes bytes
  length : ∀ {bytes bytes'}, S bytes bytes' → bytes'.length = bytes.length
  slice : ∀ {bytes bytes'} off len, S bytes bytes' →
    S (Bytes.slice bytes off len) (Bytes.slice bytes' off len)
  patch : ∀ {bytes bytes' data data'} off, S bytes bytes' → S data data' →
    S (Bytes.patch bytes off data) (Bytes.patch bytes' off data')

/-- Bytes of the same length. -/
def SameLength (bytes bytes' : Bytes) : Prop :=
  bytes'.length = bytes.length

theorem likeness_eq : Likeness Eq where
  refl _ := rfl
  length h := by rw [h]
  slice _ _ h := by rw [h]
  patch _ h h' := by rw [h, h']

theorem likeness_sameLength : Likeness SameLength where
  refl _ := rfl
  length h := h
  slice off len h := by
    unfold SameLength at *
    simp only [Bytes.slice, List.length_take, List.length_drop, h]
  patch off h _ := by
    unfold SameLength at *
    rw [Bytes.length_patch, Bytes.length_patch, h]

/-- The first bytes of bytes that are alike. -/
theorem Likeness.take {S : Bytes → Bytes → Prop} (hS : Likeness S) {bytes bytes' : Bytes}
    (h : S bytes bytes') (n : Nat) : S (bytes.take n) (bytes'.take n) :=
  hS.slice 0 n h

variable {R : Link} {ρ : RegionId → RegionId} {S : Bytes → Bytes → Prop} {p p' : Platform}

/-! ## §2. Both kinds of platform. -/

variable {j : RegionId}

theorem Primitives.services_of_kind (hP : Primitives R ρ j) (kind : BufferScript.PlatformKind)
    (page : UInt64) : PairedServices R ρ (kind.platform page) (kind.platform page) j := by
  cases kind with
  | system => exact hP.services_system
  | custom => exact hP.services_custom page

namespace Unreserved

variable (hU : Unreserved R ρ S j) (kind : BufferScript.PlatformKind) (page : UInt64)

include hU

theorem open_of_kind (L : UInt64) :
    Coupled R Eq ((kind.platform page).protect (.front j L) .readWrite)
      ((kind.platform page).protect (.front (ρ j) L) .readWrite) := by
  cases kind with
  | system => exact hU.open_system L
  | custom => exact hU.open_custom page L

theorem accessing_of_kind : Accessing R ρ S (kind.platform page) (kind.platform page) j :=
  hU.accessing_of_open (hU.services_of_kind kind page) (hU.open_of_kind kind page)

theorem disposing_of_kind : Disposing R ρ (kind.platform page) (kind.platform page) j :=
  hU.disposing_of_open (hU.services_of_kind kind page) (hU.open_of_kind kind page)

end Unreserved

theorem Originates.creating_of_kind (hO : Originates R ρ) (kind : BufferScript.PlatformKind)
    (page : UInt64) : Creating R ρ (kind.platform page) (kind.platform page) := by
  cases kind with
  | system => exact hO.creating_system
  | custom => exact hO.creating_custom page

/-! ## §3. Steps of a script of buffers. -/

namespace BufferScript

/-- Two uses that differ in the data that they write, at most. -/
inductive Use.Paired (S : Bytes → Bytes → Prop) : Use → Use → Prop
  | same (u : Use) : Paired S u u
  | write {data data' : Bytes} (alike : S data data') : Paired S (.write data) (.write data')

/-- What has to be coupled for a use of a buffer that holds the region `j`. -/
def Use.Needs (R : Link) (ρ : RegionId → RegionId) (S : Bytes → Bytes → Prop) (p p' : Platform)
    (j : RegionId) : Use → Prop
  | .write _ | .readInto _ _ | .read _ => Accessing R ρ S p p' j
  | .destroy | .letGo => Disposing R ρ p p' j
  | .info | .describe _ => True

/-- Two replies that differ in the bytes that they show, at most. -/
inductive Reply.Paired (S : Bytes → Bytes → Prop) : Reply → Reply → Prop
  | same (r : Reply) : Paired S r r
  | bytes {content content' : Bytes} (alike : S content content') :
      Paired S (.bytes content) (.bytes content')
  | sight {content content' : Bytes} (alike : S content content') :
      Paired S (.sight (.bytes content)) (.sight (.bytes content'))

/-- The caller's bytes, after reads that give the reply `r`: where they differ, both reads
have succeeded. -/
def OutPaired (S : Bytes → Bytes → Prop) (r : Reply) (out out' : Option Bytes) : Prop :=
  out' = out ∨ (r = .done ∧ ∃ copy copy', out = some copy ∧ out' = some copy' ∧ S copy copy')

theorem Reply.Paired.eq {r r' : Reply} (h : Reply.Paired Eq r r') : r' = r := by
  cases h with
  | same => rfl
  | bytes alike => rw [alike]
  | sight alike => rw [alike]

theorem OutPaired.eq {r : Reply} {out out' : Option Bytes} (h : OutPaired Eq r out out') :
    out' = out := by
  rcases h with hsame | ⟨_, copy, copy', hcopy, hcopy', halike⟩
  · exact hsame
  · rw [hcopy, hcopy', halike]

/-- Two sessions after steps on the slot `k` that change them alike. -/
inductive Session.Moved (ρ : RegionId → RegionId) (k : Nat) (s s' : Session) :
    Session → Session → Prop
  | stay : Moved ρ k s s' s s'
  | set (o : Option SealedBuffer) : Moved ρ k s s' { s with slots := s.slots.set k o }
      { s' with slots := s'.slots.set k (o.map (·.rename ρ)) }

/-- Sessions that are the same, under the same numbers, stay the same. -/
theorem Session.Moved.eq {k : Nat} {s s₁ s₁' : Session} (h : Session.Moved id k s s s₁ s₁') :
    s₁' = s₁ := by
  cases h with
  | stay => rfl
  | set o => rw [SealedBuffer.map_rename_id]

namespace Session.Moved

variable {k : Nat} {s s' s₁ s₁' : Session} (h : Session.Moved ρ k s s' s₁ s₁')

include h

theorem page_eq : s₁.page = s.page := by
  cases h <;> rfl

theorem page_eq' : s₁'.page = s'.page := by
  cases h <;> rfl

/-- **The other slots are what they were.** -/
theorem get?_of_ne {k' : Nat} (hk : k' ≠ k) : s₁.slots.get? k' = s.slots.get? k' := by
  cases h with
  | stay => rfl
  | set o => rw [Slots.get?_set, if_neg hk]

theorem get?_of_ne' {k' : Nat} (hk : k' ≠ k) : s₁'.slots.get? k' = s'.slots.get? k' := by
  cases h with
  | stay => rfl
  | set o => rw [Slots.get?_set, if_neg hk]

/-- Slots that were paired are paired again. -/
theorem slot (hslot : s'.slots.get? k = (s.slots.get? k).map (·.rename ρ)) :
    s₁'.slots.get? k = (s₁.slots.get? k).map (·.rename ρ) := by
  cases h with
  | stay => exact hslot
  | set o => rw [Slots.get?_set_self, Slots.get?_set_self]

end Session.Moved

theorem mem_heldBy_some {b : SealedBuffer} {h : Holding} :
    h ∈ heldBy (some b) ↔ b.holding = some h := by
  show h ∈ b.holding.toList ↔ _
  rw [Option.mem_toList]

/-- **The same use of two buffers.** -/
theorem use_coupled (hS : Likeness S) {b : SealedBuffer} {u u' : Use} (hu : u.Paired S u')
    (hneeds : ∀ h ∈ heldBy (some b), u.Needs R ρ S p p' h.region) :
    Coupled R (fun x x' => x.1.Paired S x'.1 ∧ OutPaired S x.1 x.2.1 x'.2.1 ∧
        x'.2.2 = x.2.2.map (·.rename ρ))
      (use p b u) (use p' (b.rename ρ) u') := by
  have hneeds' : ∀ h, b.holding = some h → u.Needs R ρ S p p' h.region :=
    fun h hh => hneeds h (mem_heldBy_some.2 hh)
  have hdone : ∀ {r r' : Except BufferError Unit}, Both Eq r r' →
      Reply.Paired S (.ofResult r) (.ofResult r') := fun h => h.eq ▸ .same _
  have hwrite : ∀ {data data'}, S data data' →
      (∀ h, b.holding = some h → Accessing R ρ S p p' h.region) →
      Coupled R (fun x x' => x.1.Paired S x'.1 ∧ OutPaired S x.1 x.2.1 x'.2.1 ∧
          x'.2.2 = x.2.2.map (·.rename ρ))
        (use p b (.write data)) (use p' (b.rename ρ) (.write data')) := fun hdata hA =>
    (SealedBuffer.write_coupled hA hdata (hS.length hdata)).bind fun o o' ho =>
      .pure ⟨hdone ho.result, Or.inl rfl, congrArg some ho.buffer⟩
  cases hu with
  | write alike => exact hwrite alike hneeds'
  | same =>
      cases u with
      | write data => exact hwrite (hS.refl data) hneeds'
      | readInto len fill =>
          refine (SealedBuffer.readInto_coupled hneeds' (List.replicate len fill)).bind ?_
          rintro ⟨copy, o⟩ ⟨copy', o'⟩ ⟨ho, hcopies⟩
          refine .pure ⟨hdone ho.result, ?_, congrArg some ho.buffer⟩
          -- only a read that succeeds leaves what the buffer holds
          unfold SealedBuffer.Copies at hcopies
          cases hr : o.result with
          | ok _ =>
              rw [hr] at hcopies
              exact Or.inr ⟨rfl, copy, copy', rfl, rfl, hcopies.1⟩
          | error e =>
              rw [hr] at hcopies
              exact Or.inl (congrArg some hcopies)
      | read len =>
          refine (SealedBuffer.read_coupled hneeds' len).bind ?_
          rintro ⟨result, b₁⟩ ⟨result', b₁'⟩ ⟨hresult, hb₁⟩
          refine .pure ⟨?_, Or.inl rfl, congrArg some hb₁⟩
          cases hresult with
          | ok related => exact .bytes related
          | error e => exact .same _
      | destroy =>
          exact (SealedBuffer.destroy_coupled hneeds').bind fun b₁ b₁' hb =>
            .pure ⟨.same _, Or.inl rfl, congrArg some hb⟩
      | letGo => exact (SealedBuffer.letGo_coupled hneeds').seq (.pure ⟨.same _, Or.inl rfl, rfl⟩)
      | info => exact .pure ⟨.same _, Or.inl rfl, rfl⟩
      | describe long =>
          have htext : (if long then (b.rename ρ).longDescription else (b.rename ρ).description) =
              if long then b.longDescription else b.description := by
            rw [b.longDescription_rename, b.description_rename]
          refine .pure ⟨?_, Or.inl rfl, rfl⟩
          rw [htext]
          exact .same _

variable {k : Nat} {s s' : Session}

/-- **The same use of a slot.** -/
theorem useSlot_coupled (hS : Likeness S) {u u' : Use} (hu : u.Paired S u')
    (hslot : s'.slots.get? k = (s.slots.get? k).map (·.rename ρ))
    (hneeds : ∀ h ∈ heldBy (s.slots.get? k), u.Needs R ρ S p p' h.region) :
    Coupled R (fun x x' => x.1.Paired S x'.1 ∧ OutPaired S x.1 x.2.1 x'.2.1 ∧
        Session.Moved ρ k s s' x.2.2 x'.2.2)
      (useSlot p s k u) (useSlot p' s' k u') := by
  unfold useSlot
  rw [hslot]
  cases hb : s.slots.get? k with
  | none =>
      have hvacant : u'.replyVacant = u.replyVacant := by
        cases hu with
        | same => rfl
        | write alike => rfl
      refine .pure ⟨?_, Or.inl rfl, .stay⟩
      rw [hvacant]
      exact .same _
  | some b =>
      rw [hb] at hneeds
      refine (use_coupled hS hu hneeds).bind ?_
      rintro ⟨reply, out, held⟩ ⟨reply', out', _⟩ ⟨hreply, hout, rfl⟩
      exact .pure ⟨hreply, hout, .set held⟩

/-- **The same creation in a slot**, where the buffer that it replaces is let go of. -/
theorem create_coupled_of_made {size : UInt64}
    (hmade : Coupled R (Both fun b b' => b' = b.rename ρ) (SealedBuffer.create p size).run
      (SealedBuffer.create p' size).run)
    (hslot : s'.slots.get? k = (s.slots.get? k).map (·.rename ρ))
    (hD : ∀ h ∈ heldBy (s.slots.get? k), Disposing R ρ p p' h.region) :
    Coupled R (fun x x' => x'.1 = x.1 ∧ Session.Moved ρ k s s' x.2 x'.2)
      (create p s k size) (create p' s' k size) := by
  unfold create
  refine hmade.bind fun r r' h => ?_
  cases h with
  | error f => exact .pure ⟨rfl, .stay⟩
  | ok related =>
      subst related
      rename_i b
      rw [hslot]
      have hput : Session.Moved ρ k s s' { s with slots := s.slots.put k b }
          { s' with slots := s'.slots.put k (b.rename ρ) } := .set (some b)
      cases hold : s.slots.get? k with
      | none => exact .pure ⟨rfl, hput⟩
      | some old =>
          rw [hold] at hD
          have hD' : ∀ h, old.holding = some h → Disposing R ρ p p' h.region :=
            fun h hh => hD h (mem_heldBy_some.2 hh)
          exact (SealedBuffer.letGo_coupled hD').seq (.pure ⟨rfl, hput⟩)

theorem create_coupled (hC : Creating R ρ p p') (size : UInt64)
    (hslot : s'.slots.get? k = (s.slots.get? k).map (·.rename ρ))
    (hD : ∀ h ∈ heldBy (s.slots.get? k), Disposing R ρ p p' h.region) :
    Coupled R (fun x x' => x'.1 = x.1 ∧ Session.Moved ρ k s s' x.2 x'.2)
      (create p s k size) (create p' s' k size) :=
  create_coupled_of_made (SealedBuffer.create_coupled hC size) hslot hD

/-- Two operations on a slot that differ in the data that they write, at most. -/
inductive Action.Paired (S : Bytes → Bytes → Prop) : Action → Action → Prop
  | create (size : UInt64) : Paired S (.create size) (.create size)
  | use {u u' : Use} (h : u.Paired S u') : Paired S (.use u) (.use u')

theorem Unreserved.needs {j : RegionId} (hU : Unreserved R ρ S j) (kind : PlatformKind)
    (page : UInt64) (u : Use) : u.Needs R ρ S (kind.platform page) (kind.platform page) j := by
  cases u with
  | write _ | readInto _ _ | read _ => exact hU.accessing_of_kind kind page
  | destroy | letGo => exact hU.disposing_of_kind kind page
  | info | describe _ => exact trivial

/-- **The same operation on a slot**, in sessions whose platforms report the same page size. -/
theorem act_coupled (hS : Likeness S) (kind : PlatformKind) {a a' : Action} (ha : a.Paired S a')
    (hpage : s'.page = s.page) (hslot : s'.slots.get? k = (s.slots.get? k).map (·.rename ρ))
    (hO : Originates R ρ) (hU : ∀ h ∈ heldBy (s.slots.get? k), Unreserved R ρ S h.region) :
    Coupled R (fun x x' => x.1.Paired S x'.1 ∧ OutPaired S x.1 x.2.1 x'.2.1 ∧
        Session.Moved ρ k s s' x.2.2 x'.2.2)
      (act kind s k a) (act kind s' k a') := by
  cases ha with
  | create size =>
      show Coupled R _ (create (kind.platform s.page) s k size >>= _)
        (create (kind.platform s'.page) s' k size >>= _)
      rw [hpage]
      refine (create_coupled (hO.creating_of_kind kind s.page) size hslot
        fun h hh => (hU h hh).disposing_of_kind kind s.page).bind ?_
      rintro ⟨reply, s₁⟩ ⟨_, s₁'⟩ ⟨rfl, hmoved⟩
      exact .pure ⟨.same _, Or.inl rfl, hmoved⟩
  | use h =>
      show Coupled R _ (useSlot (kind.platform s.page) s k _)
        (useSlot (kind.platform s'.page) s' k _)
      rw [hpage]
      exact useSlot_coupled hS h hslot fun g hg => Unreserved.needs (hU g hg) kind s.page _

/-- **The same buffers are let go of.** -/
theorem letGoAll_coupled (bs : List SealedBuffer)
    (hD : ∀ b ∈ bs, ∀ h, b.holding = some h → Disposing R ρ p p' h.region) :
    Coupled R Eq (letGoAll p bs) (letGoAll p' (bs.map (·.rename ρ))) := by
  induction bs with
  | nil => exact .pure rfl
  | cons b rest ih =>
      have hfirst := SealedBuffer.letGo_coupled (hD b List.mem_cons_self)
      exact hfirst.seq (ih fun b' hb' => hD b' (List.mem_cons_of_mem _ hb'))

end BufferScript

/-! ## §4. The C interface. -/

namespace Handle

variable {handle : Handle}

/-- What has to be coupled for a handle. -/
theorem needs_of_some {b : SealedBuffer} {T : RegionId → Prop}
    (h : ∀ g ∈ heldBy (some b), T g.region) : ∀ g, b.holding = some g → T g.region :=
  fun g hg => h g (BufferScript.mem_heldBy_some.2 hg)

theorem destroy_coupled (hD : ∀ h ∈ heldBy handle, Disposing R id .system .system h.region) :
    Coupled R Eq (destroy handle) (destroy handle) := by
  cases handle with
  | none => exact .pure rfl
  | some b =>
      have h := SealedBuffer.letGo_coupled (needs_of_some hD)
      rw [b.rename_id] at h
      exact h

/-- **The same creation of a handle.** -/
theorem create_coupled (hC : Creating R id .system .system)
    (hnote : ∀ size e, Coupled R Eq (Machine.note (.handleRefused size e))
      (Machine.note (.handleRefused size e))) (size : UInt64) :
    Coupled R Eq (create size) (create size) := by
  unfold create
  refine (SealedBuffer.create_coupled hC size).bind fun r r' h => ?_
  cases h with
  | ok related =>
      subst related
      rw [SealedBuffer.rename_id]
      exact .pure rfl
  | error f =>
      cases f with
      | refused e => exact (hnote size e).seq (.pure rfl)
      | trapped t => exact .pure rfl

/-- **Data that is alike is stored alike.** -/
theorem store_coupled (hS : Likeness S)
    (hA : ∀ h ∈ heldBy handle, Accessing R id S .system .system h.region)
    {data data' : Option Bytes} (hdata : Option.Rel S data data') (len : UInt64) :
    Coupled R Eq (store handle data len) (store handle data' len) := by
  unfold store
  cases handle with
  | none => exact .pure rfl
  | some b =>
      cases hdata with
      | none => exact .pure rfl
      | some alike =>
          show Coupled R Eq (if len = 0 then _ else _) (if len = 0 then _ else _)
          split
          · exact .pure rfl
          · have htake := hS.take alike len.toNat
            have h := SealedBuffer.write_coupled (needs_of_some hA) htake (hS.length htake)
            rw [b.rename_id] at h
            refine h.bind fun o o' ho => ?_
            have hbuffer := ho.buffer
            rw [SealedBuffer.rename_id] at hbuffer
            rw [ho.result.eq, hbuffer]
            exact .pure rfl

/-- The caller's bytes after two retrievals with the same code: where they differ, they
do in the first `len` bytes of retrievals that have succeeded. -/
def OutPaired (S : Bytes → Bytes → Prop) (code : Int32) (len : Nat) (out out' : Option Bytes) :
    Prop :=
  out' = out ∨ (code = successCode ∧ ∃ copy copy' rest, out = some (copy ++ rest) ∧
    out' = some (copy' ++ rest) ∧ S copy copy' ∧ copy.length ≤ len)

/-- **What is alike is retrieved alike.** -/
theorem retrieve_coupled
    (hA : ∀ h ∈ heldBy handle, Accessing R id S .system .system h.region)
    (out : Option Bytes) (len : UInt64) :
    Coupled R (fun x x' => x'.1 = x.1 ∧ OutPaired S x.1 len.toNat x.2.1 x'.2.1 ∧ x'.2.2 = x.2.2)
      (retrieve handle out len) (retrieve handle out len) := by
  unfold retrieve
  cases handle with
  | none => exact .pure ⟨rfl, Or.inl rfl, rfl⟩
  | some b =>
      cases out with
      | none => exact .pure ⟨rfl, Or.inl rfl, rfl⟩
      | some bytes =>
          show Coupled R _ (if len = 0 then _ else _) (if len = 0 then _ else _)
          split
          · exact .pure ⟨rfl, Or.inl rfl, rfl⟩
          · have h := SealedBuffer.readInto_coupled (needs_of_some hA) (bytes.take len.toNat)
            rw [b.rename_id] at h
            refine h.bind ?_
            rintro ⟨copy, o⟩ ⟨copy', o'⟩ ⟨ho, hcopies⟩
            have hbuffer : o'.buffer = o.buffer := by
              rw [ho.buffer, SealedBuffer.rename_id]
            refine .pure ⟨congrArg resultCode ho.result.eq.symm, ?_, congrArg some hbuffer⟩
            unfold SealedBuffer.Copies at hcopies
            cases hr : o.result with
            | ok _ =>
                rw [hr] at hcopies
                refine Or.inr ⟨rfl, copy, copy', _, rfl, rfl, hcopies.1, ?_⟩
                exact Nat.le_trans hcopies.2 (List.length_take_le _ _)
            | error e =>
                rw [hr] at hcopies
                have hsame : copy' = copy := hcopies
                exact Or.inl (by rw [hsame])

end Handle

/-! ## §5. Scripts of handles. -/

namespace HandleScript

/-- **The same creation into a variable.** -/
theorem create_coupled {vars : Variables} {slot : Nat} (hC : Creating R id .system .system)
    (hnote : ∀ size e, Coupled R Eq (Machine.note (.handleRefused size e))
      (Machine.note (.handleRefused size e)))
    (hD : ∀ h ∈ heldBy (vars.get? slot), Disposing R id .system .system h.region) (size : UInt64) :
    Coupled R Eq (create vars slot size) (create vars slot size) := by
  unfold create
  refine (Handle.create_coupled hC hnote size).bind ?_
  rintro r _ rfl
  cases r with
  | error t => exact .pure rfl
  | ok made => exact (Handle.destroy_coupled hD).seq (.pure rfl)

/-- Two steps that differ in the data that they store, at most. -/
inductive Step.Paired (S : Bytes → Bytes → Prop) : Step → Step → Prop
  | same (step : Step) : Paired S step step
  | store (handle : Passed) {data data' : Option Bytes} (alike : Option.Rel S data data')
      (len : UInt64) : Paired S (.store handle data len) (.store handle data' len)

/-- Two replies that differ in the bytes that they show, at most. -/
inductive Reply.Paired (S : Bytes → Bytes → Prop) : Reply → Reply → Prop
  | same (r : Reply) : Paired S r r
  | sight {content content' : Bytes} (alike : S content content') :
      Paired S (.sight (.bytes content)) (.sight (.bytes content'))

/-- The caller's bytes after a step and its reply: where they differ, the step is a
retrieval that has succeeded, and they do in the bytes that it copied. -/
def OutPaired (S : Bytes → Bytes → Prop) (step : Step) (r : Reply) (out out' : Option Bytes) :
    Prop :=
  out' = out ∨ ∃ handle len room fill, step = .retrieve handle len room fill ∧
    r = .code successCode ∧ ∃ copy copy' rest, out = some (copy ++ rest) ∧
      out' = some (copy' ++ rest) ∧ S copy copy' ∧ copy.length ≤ len.toNat

theorem Reply.Paired.eq {r r' : Reply} (h : Reply.Paired Eq r r') : r' = r := by
  cases h with
  | same => rfl
  | sight alike => rw [alike]

theorem OutPaired.eq {step : Step} {r : Reply} {out out' : Option Bytes}
    (h : OutPaired Eq step r out out') : out' = out := by
  rcases h with hsame | ⟨_, _, _, _, _, _, copy, copy', rest, hcopy, hcopy', halike, _⟩
  · exact hsame
  · rw [hcopy, hcopy', halike]

/-- What has to be coupled for a step. -/
def Step.Needs (R : Link) (S : Bytes → Bytes → Prop) (vars : Variables) : Step → Prop
  | .create slot _ => Creating R id .system .system ∧
      (∀ size e, Coupled R Eq (Machine.note (.handleRefused size e))
        (Machine.note (.handleRefused size e))) ∧
      ∀ h ∈ heldBy (vars.get? slot), Disposing R id .system .system h.region
  | .store passed _ _ | .retrieve passed _ _ _ =>
      ∀ h ∈ heldBy (lookUp vars passed), Accessing R id S .system .system h.region
  | .destroy passed | .clear passed =>
      ∀ h ∈ heldBy (lookUp vars passed), Disposing R id .system .system h.region
  | .fault target places => Coupled R Eq (Machine.schedule target places)
      (Machine.schedule target places)
  | .peek region first len => ∀ m n, R m n →
      Reply.Paired S (.sight (m.memory.peek region first len))
        (.sight (n.memory.peek region first len))
  | .getSize _ | .version | .codeText _ => True

/-- **The same step on the same variables.** -/
theorem act_coupled {vars : Variables} {step step' : Step} (hS : Likeness S)
    (hstep : step.Paired S step') (hneeds : step.Needs R S vars) :
    Coupled R (fun x x' => x.1.Paired S x'.1 ∧ OutPaired S step x.1 x.2.1 x'.2.1 ∧
        x'.2.2 = x.2.2)
      (act vars step) (act vars step') := by
  have hstore : ∀ {handle data data' len}, Option.Rel S data data' →
      (Step.store handle data len).Needs R S vars →
      Coupled R (fun x x' => x.1.Paired S x'.1 ∧
          OutPaired S (.store handle data len) x.1 x.2.1 x'.2.1 ∧ x'.2.2 = x.2.2)
        (act vars (.store handle data len)) (act vars (.store handle data' len)) :=
    fun hdata hA => (Handle.store_coupled hS hA hdata _).bind fun _ _ h =>
      h ▸ .pure ⟨.same _, Or.inl rfl, rfl⟩
  cases hstep with
  | store handle alike len => exact hstore alike hneeds
  | same =>
      cases step with
      | create slot size =>
          obtain ⟨hC, hnote, hD⟩ := hneeds
          exact (create_coupled hC hnote hD size).bind fun _ _ h =>
            h ▸ .pure ⟨.same _, Or.inl rfl, rfl⟩
      | store handle data len =>
          have hdata : Option.Rel S data data := by
            cases data with
            | none => exact .none
            | some bytes => exact .some (hS.refl bytes)
          exact hstore hdata hneeds
      | retrieve handle len room fill =>
          refine (Handle.retrieve_coupled hneeds _ len).bind ?_
          rintro ⟨code, out, after⟩ ⟨_, out', _⟩ ⟨rfl, hout, rfl⟩
          refine .pure ⟨.same _, ?_, rfl⟩
          rcases hout with rfl | ⟨hcode, copy, copy', rest, rfl, rfl, halike, hlen⟩
          · exact Or.inl rfl
          · exact Or.inr ⟨handle, len, room, fill, rfl, congrArg Reply.code hcode, copy, copy',
              rest, rfl, rfl, halike, hlen⟩
      | destroy handle =>
          exact (Handle.destroy_coupled hneeds).seq (.pure ⟨.same _, Or.inl rfl, rfl⟩)
      | clear address =>
          cases address with
          | none => exact .pure ⟨.same _, Or.inl rfl, rfl⟩
          | some slot =>
              have hclear : Coupled R Eq (Handle.clear (vars.get? slot))
                  (Handle.clear (vars.get? slot)) :=
                Coupled.seq (Handle.destroy_coupled hneeds) (.pure rfl)
              exact hclear.bind fun _ _ h => h ▸ .pure ⟨.same _, Or.inl rfl, rfl⟩
      | fault target places => exact Coupled.seq hneeds (.pure ⟨.same _, Or.inl rfl, rfl⟩)
      | peek region first len => exact fun m n hR => ⟨⟨hneeds m n hR, Or.inl rfl, rfl⟩, hR⟩
      | getSize handle => exact .pure ⟨.same _, Or.inl rfl, rfl⟩
      | version => exact .pure ⟨.same _, Or.inl rfl, rfl⟩
      | codeText code => exact .pure ⟨.same _, Or.inl rfl, rfl⟩

/-- **The same handles are destroyed.** -/
theorem destroyAll_coupled (bs : List SealedBuffer)
    (hD : ∀ b ∈ bs, ∀ h ∈ heldBy (some b), Disposing R id .system .system h.region) :
    Coupled R Eq (destroyAll bs) (destroyAll bs) := by
  induction bs with
  | nil => exact .pure rfl
  | cons b rest ih =>
      exact (Handle.destroy_coupled (hD b List.mem_cons_self)).seq
        (ih fun b' hb' => hD b' (List.mem_cons_of_mem _ hb'))

end HandleScript

end SealedPages
