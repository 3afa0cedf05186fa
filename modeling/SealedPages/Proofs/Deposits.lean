/-
  SealedPages.Proofs.Deposits
  ───────────────────────────
  **A BUFFER HOLDS WHAT WAS WRITTEN TO IT.**  To its user a buffer of `size` bytes is an
  array of bytes, zero at first.  A write that is done sets the first bytes of it, as many
  as its data has, and nothing else changes it: no read, no write that is refused or that
  fails, and no step on another slot.

  A `Deposit` keeps what the requests and their replies tell of a slot; the pages are
  not looked at.  The pages of the buffer in the slot hold just that, and zeros behind it.

  Main statements:
    * `latestByte_snoc` — a byte is that of the last write that reached it;
    * `BufferScript.act_contents` — what one step does to the contents of its slot;
    * `Scenario.filled` — after any steps, every buffer is filled as its
      deposit says;
    * `Scenario.contents_eq_latest_writes` — contents and reads, at every point of a run.
-/
import SealedPages.Proofs.Contents
import SealedPages.Proofs.Scenario

namespace SealedPages

/-! ## §1. What was asked for. -/

/-- The byte at `i` of the last of some writes that is longer than `i`, or 0. -/
def latestByte (writes : List Bytes) (i : Nat) : UInt8 :=
  ((writes.filterMap (·[i]?)).getLast?).getD 0

theorem latestByte_nil (i : Nat) : latestByte [] i = 0 :=
  rfl

/-- **A write that reaches a byte sets it.** -/
theorem latestByte_snoc (writes : List Bytes) (data : Bytes) (i : Nat) :
    latestByte (writes ++ [data]) i = (data[i]?).getD (latestByte writes i) := by
  unfold latestByte
  rw [List.filterMap_append]
  cases h : data[i]? with
  | none => simp [h]
  | some b => simp [h]

/-- Bytes that no write reaches stay zero. -/
theorem latestByte_of_le {writes : List Bytes} {n i : Nat}
    (h : ∀ data ∈ writes, data.length ≤ n) (hi : n ≤ i) : latestByte writes i = 0 := by
  have hnone : writes.filterMap (·[i]?) = [] :=
    List.filterMap_eq_nil_iff.2 fun data hdata =>
      List.getElem?_eq_none (Nat.le_trans (h data hdata) hi)
  unfold latestByte
  rw [hnone]
  rfl

namespace BufferScript

/-- What the requests for a slot tell of its buffer: the size that was asked for, and the
data of the writes that were done, the first one first. -/
structure Deposit where
  size : UInt64 := 0
  writes : List Bytes := []

/-- The deposit after a step on the slot and its reply. -/
def Deposit.after (d : Deposit) : Action → Reply → Deposit
  | .create size, .done       => ⟨size, []⟩
  | .use (.write data), .done => { d with writes := d.writes ++ [data] }
  | _, _ => d

/-- The first `count` bytes of the array. -/
def Deposit.first (d : Deposit) (count : Nat) : Bytes :=
  (List.range count).map (latestByte d.writes)

/-- The deposit of the slot `k` after steps and their replies. -/
def deposit (k : Nat) (past : List (Step × Reply)) : Deposit :=
  past.foldl (fun d x => if x.1.slot = k then d.after x.1.action x.2 else d) {}

theorem deposit_snoc (k : Nat) (past : List (Step × Reply)) (step : Step) (reply : Reply) :
    deposit k (past ++ [(step, reply)]) =
      if step.slot = k then (deposit k past).after step.action reply else deposit k past := by
  simp [deposit]

/-- The steps of a script with their replies. -/
def past (kind : PlatformKind) (page : UInt64) (steps : List Step) : List (Step × Reply) :=
  steps.zip ((run kind page steps).answers.map (·.reply.reply))

/-- The answer to a step that comes after others. -/
def next (kind : PlatformKind) (page : UInt64) (steps : List Step) (step : Step) : Answer :=
  let scene := sceneAfter kind page steps
  ((perform kind scene.session step).run scene.machine).1.1

/-- **What follows some steps is what the next one does** to their session and machine. -/
theorem sceneAfter_snoc (kind : PlatformKind) (page : UInt64) (steps : List Step) (step : Step) :
    sceneAfter kind page (steps ++ [step]) =
      let scene := sceneAfter kind page steps
      let ran := (act kind scene.session step.slot step.action).run scene.machine
      ⟨ran.1.2.2, ran.2⟩ := by
  unfold sceneAfter
  rw [Script.play_append]
  rfl

theorem past_snoc (kind : PlatformKind) (page : UInt64) (steps : List Step) (step : Step) :
    past kind page (steps ++ [step]) =
      past kind page steps ++ [(step, (next kind page steps step).reply)] := by
  have hlen : steps.length = ((run kind page steps).answers.map (·.reply.reply)).length := by
    rw [List.length_map]
    exact (Script.length_play _ _ steps).symm
  unfold past
  show (steps ++ [step]).zip ((Script.play (perform kind) _ (steps ++ [step])).1.map _) = _
  rw [Script.play_append, List.map_append]
  exact List.zip_append hlen

end BufferScript

/-! ## §2. One step. -/

/-- **The pages of a buffer hold what was deposited**, and zeros behind it. -/
structure Filled (d : BufferScript.Deposit) (h : Holding) (m : Memory) : Prop where
  size : h.len = d.size
  short : ∀ data ∈ d.writes, data.length ≤ h.len.toNat
  bytes : ∃ bytes, m.bytes? h.region = some bytes ∧
    ∀ i < bytes.length, bytes[i]? = some (latestByte d.writes i)

namespace Filled

variable {d : BufferScript.Deposit} {h : Holding} {m m' : Memory}

/-- Whoever changes no byte of the region leaves it filled. -/
theorem of_bytes?_eq (hf : Filled d h m) (he : m'.bytes? h.region = m.bytes? h.region) :
    Filled d h m' :=
  ⟨hf.size, hf.short, he ▸ hf.bytes⟩

/-- **A write that is done is deposited.** -/
theorem write (hf : Filled d h m) {data : Bytes} (hlen : data.length ≤ h.len.toNat)
    (he : m'.bytes? h.region = (m.bytes? h.region).map fun bytes => Bytes.patch bytes 0 data) :
    Filled { d with writes := d.writes ++ [data] } h m' := by
  obtain ⟨bytes, hbytes, hall⟩ := hf.bytes
  refine ⟨hf.size, ?_, ⟨Bytes.patch bytes 0 data, by rw [he, hbytes]; rfl, ?_⟩⟩
  · intro data' hdata'
    rcases List.mem_append.1 hdata' with hold | hnew
    · exact hf.short data' hold
    · rw [List.mem_singleton.1 hnew]
      exact hlen
  · intro i hi
    rw [Bytes.length_patch] at hi
    rw [latestByte_snoc, Bytes.getElem?_patch]
    by_cases hreach : i < data.length
    · -- the data reaches this byte
      rw [if_pos ⟨Nat.zero_le i, by omega, hi⟩, Nat.sub_zero, List.getElem?_eq_getElem hreach]
      rfl
    · rw [if_neg (by omega), hall i hi, List.getElem?_eq_none (by omega)]
      rfl

/-- New pages are zero, as nothing is deposited yet. -/
theorem of_isZero {size : UInt64} {r : Region} (hlen : h.len = size)
    (hr : m.find? h.region = some r) (hz : r.IsZero) : Filled ⟨size, []⟩ h m := by
  refine ⟨hlen, by simp, ⟨r.bytes, Memory.bytes?_of_find? hr, ?_⟩⟩
  intro i hi
  rw [List.getElem?_eq_getElem hi, hz _ (List.getElem_mem hi), latestByte_nil]

/-- **The first bytes of the pages are those of the array.** -/
theorem firstBytes_eq (hf : Filled d h m) {r : Region} (hr : m.find? h.region = some r)
    {count : Nat} (hcount : count ≤ r.bytes.length) :
    SealedBuffer.firstBytes m h.region count = d.first count := by
  obtain ⟨bytes, hbytes, hall⟩ := hf.bytes
  have hsame : bytes = r.bytes := Option.some.inj (hbytes.symm.trans (Memory.bytes?_of_find? hr))
  subst hsame
  unfold SealedBuffer.firstBytes BufferScript.Deposit.first
  rw [hbytes]
  apply List.ext_getElem?
  intro i
  by_cases hi : i < count
  · rw [Option.getD_some, List.getElem?_take_of_lt hi, hall i (by omega), List.getElem?_map,
      List.getElem?_range hi]
    rfl
  · rw [List.getElem?_eq_none (by simp; omega), List.getElem?_eq_none (by simp; omega)]

end Filled

namespace BufferScript

variable {kind : PlatformKind} {page : UInt64} {s : Session} {k : Nat} {m m' : Machine}
  {h : Holding}

/-- **What a step made of the buffer in its slot**, which holds `h` afterwards: it is new, or
it was written to, or nothing has changed for it. -/
inductive Left (before : Option SealedBuffer) (m m' : Machine) (h : Holding) :
    Action → Reply → Prop
  | made {size : UInt64} (new : SealedBuffer.New size m m' h) :
      Left before m m' h (.create size) .done
  | written {data : Bytes} (held : h ∈ heldBy before) (fits : data.length ≤ h.len.toNat)
      (bytes : m'.memory.bytes? h.region =
        (m.memory.bytes? h.region).map fun bytes => Bytes.patch bytes 0 data) :
      Left before m m' h (.use (.write data)) .done
  | kept {a : Action} {reply : Reply} (held : h ∈ heldBy before)
      (bytes : m'.memory.bytes? h.region = m.memory.bytes? h.region)
      (after : ∀ d : Deposit, d.after a reply = d) : Left before m m' h a reply

/-- What a slot holds after a step it held before, or it is new. -/
theorem Left.held_or_new {before : Option SealedBuffer} {a : Action} {reply : Reply}
    (hleft : Left before m m' h a reply) : h ∈ heldBy before ∨ h.region = m.memory.nextId := by
  cases hleft with
  | made new => exact Or.inr new.region
  | written held _ _ => exact Or.inl held
  | kept held _ _ => exact Or.inl held

/-- What a use leaves, where the buffer is destroyed or its bytes are what they were. -/
theorem left_of_spared {b : SealedBuffer} {u : Use} {reply : Reply}
    (hb : b = .destroyed ∨ b = ⟨some h⟩ ∧ m'.memory.bytes? = m.memory.bytes?)
    (hafter : ∀ d : Deposit, d.after (.use u) reply = d) :
    ∀ h' ∈ heldBy (some b), Left (some ⟨some h⟩) m m' h' (.use u) reply := by
  intro h' hh'
  rcases hb with rfl | ⟨rfl, hsame⟩
  · cases hh'
  · rw [mem_heldBy_some] at hh'
    cases hh'
    exact .kept (mem_heldBy_some.2 rfl) (by rw [hsame]) hafter

/-- **What a use leaves of a buffer at rest.** -/
theorem use_contents (kind : PlatformKind) (page : UInt64) (m : Machine)
    (hmode : h.mode = .noAccess) (u : Use) :
    ∃ reply out held m', (use (kind.platform page) ⟨some h⟩ u).run m = ((reply, out, held), m') ∧
      ∀ h' ∈ heldBy held, Left (some ⟨some h⟩) m m' h' (.use u) reply := by
  cases u with
  | write data =>
      obtain ⟨outcome, m', hrun, hcases⟩ := SealedBuffer.write_contents kind page m hmode data
      refine ⟨.ofResult outcome.result, none, some outcome.buffer, m', run_bind_of_eq hrun, ?_⟩
      rcases hcases with ⟨hbuffer, hok, hfits, hbytes⟩ | ⟨e, herror, hspared⟩
      · rw [hbuffer, hok]
        intro h' hh'
        rw [mem_heldBy_some] at hh'
        cases hh'
        exact .written (mem_heldBy_some.2 rfl) hfits hbytes
      · rw [herror]
        exact left_of_spared hspared fun _ => rfl
  | readInto len fill =>
      obtain ⟨copy, outcome, m', hrun, hcases⟩ := SealedBuffer.readInto_contents kind page m hmode
        (List.replicate len fill)
      refine ⟨.ofResult outcome.result, some copy, some outcome.buffer, m', run_bind_of_eq hrun, ?_⟩
      rcases hcases with ⟨hbuffer, hsame, _⟩ | ⟨e, _, hspared⟩
      · exact left_of_spared (Or.inr ⟨hbuffer, hsame⟩) fun _ => rfl
      · exact left_of_spared hspared fun _ => rfl
  | read len =>
      obtain ⟨outcome, m', hrun, hcases⟩ := SealedBuffer.read_contents kind page m hmode len
      refine ⟨.ofBytes outcome.result, none, some outcome.buffer, m', run_bind_of_eq hrun, ?_⟩
      rcases hcases with ⟨hbuffer, hsame, _⟩ | ⟨e, _, hspared⟩
      · exact left_of_spared (Or.inr ⟨hbuffer, hsame⟩) fun _ => rfl
      · exact left_of_spared hspared fun _ => rfl
  | destroy =>
      exact ⟨.done, none, some .destroyed, _, rfl, left_of_spared (Or.inl rfl) fun _ => rfl⟩
  | letGo => exact ⟨.done, none, none, _, rfl, fun h' hh' => by cases hh'⟩
  | info => exact ⟨_, _, _, m, rfl, left_of_spared (Or.inr ⟨rfl, rfl⟩) fun _ => rfl⟩
  | describe long => exact ⟨_, _, _, m, rfl, left_of_spared (Or.inr ⟨rfl, rfl⟩) fun _ => rfl⟩

/-- A buffer that is destroyed stays so, whatever is done with it. -/
theorem use_destroyed (p : Platform) (u : Use) (m : Machine) :
    ∃ reply out held m', (use p .destroyed u).run m = ((reply, out, held), m') ∧
      heldBy held = [] := by
  cases u <;> exact ⟨_, _, _, _, rfl, rfl⟩

/-- **What a use of a slot leaves in it.** -/
theorem useSlot_contents (page : UInt64) (c : Custody kind.view s.slots.holdings m) (k : Nat)
    (u : Use) :
    ∃ reply out s' m', (useSlot (kind.platform page) s k u).run m = ((reply, out, s'), m') ∧
      ∀ h ∈ heldBy (s'.slots.get? k), Left (s.slots.get? k) m m' h (.use u) reply := by
  unfold useSlot
  have c₁ := c.of_slot k
  cases hb : s.slots.get? k with
  | none =>
      refine ⟨_, _, s, m, rfl, fun h hh => ?_⟩
      rw [hb] at hh
      cases hh
  | some b =>
      rw [hb] at c₁
      have hset : ∀ held, ({ s with slots := s.slots.set k held } : Session).slots.get? k = held :=
        fun held => Slots.get?_set_self _ _ _
      obtain ⟨holding⟩ := b
      cases holding with
      | none =>
          obtain ⟨reply, out, held, m', hrun, hnil⟩ := use_destroyed (kind.platform page) u m
          refine ⟨reply, out, { s with slots := s.slots.set k held }, m', run_bind_of_eq hrun, ?_⟩
          intro h hh
          rw [hset, hnil] at hh
          cases hh
      | some h =>
          have hheld := c₁.held h (List.mem_append_left _ (mem_heldBy_some.2 rfl))
          obtain ⟨reply, out, held, m', hrun, hleft⟩ := use_contents kind page m
            hheld.mode u
          refine ⟨reply, out, { s with slots := s.slots.set k held }, m', run_bind_of_eq hrun, ?_⟩
          rw [hset]
          exact hleft

/-- What is held lies in regions that were made. -/
theorem lt_nextId_of_mem_heldBy {v : View} (c : Custody v s.slots.holdings m)
    (hh : h ∈ heldBy (s.slots.get? k)) : h.region < m.memory.nextId := by
  obtain ⟨r, hr, _⟩ := ((c.of_slot k).held h (List.mem_append_left _ hh)).region
  exact Memory.lt_nextId_of_find? hr

/-- **What a creation leaves in its slot.** -/
theorem create_contents (page : UInt64) (c : Custody kind.view s.slots.holdings m) (k : Nat)
    (size : UInt64) :
    ∃ reply s' m', (create (kind.platform page) s k size).run m = ((reply, s'), m') ∧
      ∀ h ∈ heldBy (s'.slots.get? k), Left (s.slots.get? k) m m' h (.create size) reply := by
  obtain ⟨_, hp⟩ := serves kind page
  have huntouched := create_untouched kind page size m
  unfold create
  rcases SealedBuffer.create_handover hp c size with
    ⟨f, m₁, hrun, _, _⟩ | ⟨h, m₁, hrun, hnew, _⟩
  · -- no buffer was made, and the pages of the old one were left alone
    refine ⟨.failed f, s, m₁, run_bind_of_eq hrun, fun h hh => .kept hh ?_ fun _ => rfl⟩
    rw [hrun] at huntouched
    have hsame := huntouched.regions h.region (lt_nextId_of_mem_heldBy c hh)
      (fun ⟨_, hmem, _⟩ => by cases hmem)
    exact congrArg (Option.map _) hsame
  · have hget : ∀ h' ∈ heldBy ((s.slots.put k ⟨some h⟩).get? k), h' = h := fun h' hh' => by
      rw [Slots.get?_put, if_pos rfl, mem_heldBy_some] at hh'
      exact (Option.some.inj hh').symm
    rw [run_bind, hrun]
    cases hold : s.slots.get? k with
    | none =>
        refine ⟨.done, { s with slots := s.slots.put k ⟨some h⟩ }, m₁, rfl, fun h' hh' => ?_⟩
        rw [hget h' hh']
        exact .made hnew
    | some old =>
        refine ⟨.done, { s with slots := s.slots.put k ⟨some h⟩ }, _, rfl, fun h' hh' => ?_⟩
        rw [hget h' hh']
        -- the old buffer is let go of, and its region is another one
        obtain ⟨r, hr, hz⟩ := hnew.zero
        have hother : ¬ owns (some old) h.region := fun ⟨g, hg, he⟩ => by
          have hlt := lt_nextId_of_mem_heldBy (k := k) c (hold ▸ hg)
          rw [he, hnew.region] at hlt
          exact Nat.lt_irrefl _ hlt
        have hsame := (letGo_untouched kind page old m₁).regions h.region
          (Memory.lt_nextId_of_find? hr) hother
        exact .made ⟨hnew.region, hnew.len, r, hsame.trans hr, hz⟩

/-- **What a step leaves in its slot.** -/
theorem act_contents (c : Custody kind.view s.slots.holdings m) (k : Nat) (a : Action) :
    ∀ h ∈ heldBy (((act kind s k a).run m).1.2.2.slots.get? k),
      Left (s.slots.get? k) m ((act kind s k a).run m).2 h a ((act kind s k a).run m).1.1 := by
  cases a with
  | create size =>
      obtain ⟨reply, s', m', hrun, hleft⟩ := create_contents s.page c k size
      have hact : (act kind s k (.create size)).run m = ((reply, none, s'), m') := run_bind_of_eq hrun
      rw [hact]
      exact hleft
  | use u =>
      obtain ⟨reply, out, s', m', hrun, hleft⟩ := useSlot_contents s.page c k u
      have hact : (act kind s k (.use u)).run m = ((reply, out, s'), m') := hrun
      rw [hact]
      exact hleft
  | setPageSize value => exact fun h hh => .kept hh rfl fun _ => rfl
  | fault t places => exact fun h hh => .kept hh rfl fun _ => rfl
  | peek region first len => exact fun h hh => .kept hh rfl fun _ => rfl

/-! ## §3. Reading. -/

/-- **A read that gives bytes gives the first ones of the buffer.** -/
theorem useSlot_read (c : Custody kind.view s.slots.holdings m) {count : Nat} {content : Bytes}
    (hreply : ((useSlot (kind.platform page) s k (.read count)).run m).1.1 = .bytes content) :
    ∃ h ∈ heldBy (s.slots.get? k), count ≤ h.len.toNat ∧
      content = SealedBuffer.firstBytes m.memory h.region count := by
  unfold useSlot at hreply
  have c₁ := c.of_slot k
  cases hb : s.slots.get? k with
  | none =>
      rw [hb] at hreply
      cases hreply
  | some b =>
      rw [hb] at hreply c₁
      obtain ⟨holding⟩ := b
      cases holding with
      | none => cases hreply
      | some h =>
          have hh : h ∈ heldBy (some ⟨some h⟩) := mem_heldBy_some.2 rfl
          have hmode := (c₁.held h (List.mem_append_left _ hh)).mode
          obtain ⟨outcome, m', hrun, hcases⟩ := SealedBuffer.read_contents kind page m hmode
            count
          have hofBytes : Reply.ofBytes outcome.result = .bytes content := by
            rw [← hreply]
            exact (congrArg (fun x => Reply.ofBytes x.1.result) hrun).symm
          rcases hcases with ⟨_, _, hcount, hok⟩ | ⟨e, herror, _⟩
          · rw [hok] at hofBytes
            cases hofBytes
            exact ⟨h, hh, hcount, rfl⟩
          · rw [herror] at hofBytes
            cases hofBytes

/-- **A read over bytes that is done leaves the first ones of the buffer.** -/
theorem useSlot_readInto (c : Custody kind.view s.slots.holdings m) {count : Nat} {fill : UInt8}
    (hreply : ((useSlot (kind.platform page) s k (.readInto count fill)).run m).1.1 = .done) :
    ∃ h ∈ heldBy (s.slots.get? k), count ≤ h.len.toNat ∧
      ((useSlot (kind.platform page) s k (.readInto count fill)).run m).1.2.1 =
        some (SealedBuffer.firstBytes m.memory h.region count) := by
  unfold useSlot at hreply ⊢
  have c₁ := c.of_slot k
  cases hb : s.slots.get? k with
  | none =>
      rw [hb] at hreply
      cases hreply
  | some b =>
      rw [hb] at hreply c₁
      obtain ⟨holding⟩ := b
      cases holding with
      | none => cases hreply
      | some h =>
          have hh : h ∈ heldBy (some ⟨some h⟩) := mem_heldBy_some.2 rfl
          have hmode := (c₁.held h (List.mem_append_left _ hh)).mode
          obtain ⟨copy, outcome, m', hrun, hcases⟩ := SealedBuffer.readInto_contents kind page m
            hmode (List.replicate count fill)
          rw [List.length_replicate] at hcases
          have hofResult : Reply.ofResult outcome.result = .done := by
            rw [← hreply]
            exact (congrArg (fun x => Reply.ofResult x.1.2.result) hrun).symm
          rcases hcases with ⟨_, _, _, hcount, hcopy⟩ | ⟨e, herror, _⟩
          · refine ⟨h, hh, hcount, ?_⟩
            rw [← hcopy]
            exact congrArg (fun x => some x.1.1) hrun
          · rw [herror] at hofResult
            cases hofResult

end BufferScript

/-! ## §4. Runs. -/

namespace Filled

open BufferScript

variable {d : Deposit} {h : Holding} {m m' : Machine} {before : Option SealedBuffer} {a : Action}
  {reply : Reply}

/-- **A step keeps the pages filled** with what its reply adds to the deposit. -/
theorem of_left (hleft : Left before m m' h a reply) (hf : h ∈ heldBy before → Filled d h m.memory) :
    Filled (d.after a reply) h m'.memory := by
  cases hleft with
  | made new =>
      obtain ⟨r, hr, hz⟩ := new.zero
      exact of_isZero new.len hr hz
  | written held fits bytes => exact (hf held).write fits bytes
  | kept held bytes after =>
      rw [after]
      exact (hf held).of_bytes?_eq bytes

end Filled

namespace Scenario

open BufferScript

theorem mem_heldBy_iff {σ : Scenario} {k : Nat} {h : Holding} :
    h ∈ heldBy (σ.slots.get? k) ↔ σ.Holds k h := by
  constructor
  · intro hh
    cases hb : σ.slots.get? k with
    | none =>
        rw [hb] at hh
        cases hh
    | some b =>
        rw [hb, mem_heldBy_some] at hh
        exact ⟨b, hb, hh⟩
  · intro hk
    obtain ⟨b, hb, hh⟩ := hk
    rw [hb]
    exact mem_heldBy_some.2 hh

variable {kind : PlatformKind} {page : UInt64} {steps : List Step}

/-- **A step leaves the buffers of the other slots alone**, and their regions. -/
theorem holds_of_ne {step : Step} {k : Nat} {h : Holding} (hk : k ≠ step.slot)
    (hh : (buffers kind page (steps ++ [step])).Holds k h) :
    (buffers kind page steps).Holds k h ∧
      (buffers kind page (steps ++ [step])).machine.memory.find? h.region =
        (buffers kind page steps).machine.memory.find? h.region := by
  have hafter := sceneAfter_snoc kind page steps step
  obtain ⟨hslots, hregions⟩ := act_others kind (sceneAfter kind page steps).session step.slot
    step.action (sceneAfter kind page steps).machine
  have hbefore : (buffers kind page steps).Holds k h := by
    obtain ⟨b, hb, hholding⟩ := hh
    have hb' : (sceneAfter kind page (steps ++ [step])).session.slots.get? k = some b := hb
    rw [hafter] at hb'
    exact ⟨b, (hslots k hk).symm.trans hb', hholding⟩
  refine ⟨hbefore, ?_⟩
  show (sceneAfter kind page (steps ++ [step])).machine.memory.find? h.region = _
  rw [hafter]
  apply hregions
  · exact lt_nextId_of_mem_heldBy (buffers kind page steps).custody (mem_heldBy_iff.2 hbefore)
  · -- the slot of the step holds another region
    intro howns
    obtain ⟨g, hg, he⟩ := howns
    exact hk ((mem_heldBy_iff (σ := buffers kind page steps)).1 hg |>.slot_unique hbefore he).symm

/-- What the slot of a step holds afterwards. -/
theorem left_of_holds {step : Step} {h : Holding}
    (hh : (buffers kind page (steps ++ [step])).Holds step.slot h) :
    Left ((buffers kind page steps).slots.get? step.slot) (buffers kind page steps).machine
      (buffers kind page (steps ++ [step])).machine h step.action
      (next kind page steps step).reply := by
  have hafter := sceneAfter_snoc kind page steps step
  have hmem : h ∈ heldBy ((sceneAfter kind page (steps ++ [step])).session.slots.get? step.slot) :=
    mem_heldBy_iff.2 hh
  rw [hafter] at hmem
  show Left _ _ (sceneAfter kind page (steps ++ [step])).machine h _ _
  rw [hafter]
  exact act_contents (buffers kind page steps).custody step.slot step.action h hmem

/-- **After any steps the pages of every buffer are filled** with its deposit. -/
theorem filled (kind : PlatformKind) (page : UInt64) (steps : List Step) :
    ∀ k h, (buffers kind page steps).Holds k h →
      Filled (deposit k (past kind page steps)) h (buffers kind page steps).machine.memory := by
  induction steps using List.reverseRecOn with
  | nil =>
      intro k h hh
      obtain ⟨b, hb, _⟩ := hh
      cases hb
  | append_singleton steps step ih =>
      intro k h hh
      rw [past_snoc, deposit_snoc]
      by_cases hk : step.slot = k
      · subst hk
        rw [if_pos rfl]
        exact .of_left (left_of_holds hh) fun hheld => ih _ h (mem_heldBy_iff.1 hheld)
      · rw [if_neg hk]
        obtain ⟨hbefore, hsame⟩ := holds_of_ne (fun e => hk e.symm) hh
        exact (ih k h hbefore).of_bytes?_eq (congrArg (Option.map _) hsame)

/-- What a buffer holds is long enough for what can be read of it. -/
theorem Holds.fits {σ : Scenario} {k : Nat} {h : Holding} (hk : σ.Holds k h) :
    ∃ r, σ.machine.memory.find? h.region = some r ∧ r.bytes.length = h.capacity.toNat ∧
      h.len.toNat ≤ r.bytes.length := by
  obtain ⟨r, hr, hrest⟩ := hk.held.region
  refine ⟨r, hr, hrest.length, ?_⟩
  rw [hrest.length]
  exact UInt64.le_iff_toNat_le.1 (le_of_roundUp hk.held.rounded.2)

/-- The pages of a buffer, byte by byte. -/
theorem Holds.bytes_eq {k : Nat} {h : Holding} (hk : (buffers kind page steps).Holds k h) :
    h.len = (deposit k (past kind page steps)).size ∧
      ∃ r, (buffers kind page steps).machine.memory.find? h.region = some r ∧
        r.bytes.length = h.capacity.toNat ∧
        (∀ i < h.len.toNat,
          r.bytes[i]? = some (latestByte (deposit k (past kind page steps)).writes i)) ∧
        ∀ i, h.len.toNat ≤ i → i < r.bytes.length → r.bytes[i]? = some 0 := by
  have hfilled := filled kind page steps k h hk
  obtain ⟨r, hr, hcapacity, hlen⟩ := hk.fits
  obtain ⟨bytes, hbytes, hall⟩ := hfilled.bytes
  have hsame : bytes = r.bytes :=
    Option.some.inj (hbytes.symm.trans (Memory.bytes?_of_find? hr))
  subst hsame
  refine ⟨hfilled.size, r, hr, hcapacity, fun i hi => hall i (by omega), fun i hi hlt => ?_⟩
  rw [hall i hlt, latestByte_of_le hfilled.short hi]

/-- The first bytes of a buffer that is long enough. -/
theorem firstBytes_eq {k count : Nat} {h : Holding}
    (hh : h ∈ heldBy ((buffers kind page steps).slots.get? k)) (hcount : count ≤ h.len.toNat) :
    SealedBuffer.firstBytes (buffers kind page steps).machine.memory h.region count =
      (deposit k (past kind page steps)).first count := by
  have hk := mem_heldBy_iff.1 hh
  obtain ⟨r, hr, _, hlen⟩ := hk.fits
  exact (filled kind page steps k h hk).firstBytes_eq hr (Nat.le_trans hcount hlen)

/-- A step that deposits nothing in a slot leaves its buffer, if it still holds a region, with
the bytes that it had. -/
theorem bytes?_of_no_deposit {step : Step} {k : Nat} {h : Holding}
    (hk : (buffers kind page (steps ++ [step])).Holds k h)
    (hnothing : step.slot = k →
      ∀ e : Deposit, e.after step.action (next kind page steps step).reply = e) :
    (buffers kind page steps).Holds k h ∧
      (buffers kind page (steps ++ [step])).machine.memory.bytes? h.region =
        (buffers kind page steps).machine.memory.bytes? h.region := by
  by_cases hslot : step.slot = k
  · subst hslot
    have hafter := hnothing rfl
    have hleft := left_of_holds hk
    generalize step.action = a at hleft hafter
    generalize (next kind page steps step).reply = reply at hleft hafter
    -- what is made or written is deposited
    cases hleft with
    | made new => cases hafter ⟨0, [[]]⟩
    | written held fits bytes => cases hafter {}
    | kept held bytes after => exact ⟨mem_heldBy_iff.1 held, bytes⟩
  · obtain ⟨hbefore, hsame⟩ := holds_of_ne (fun e => hslot e.symm) hk
    exact ⟨hbefore, congrArg (Option.map _) hsame⟩

/-- **The pages of a buffer hold its latest writes**, at every point of a run: each byte that
was asked for is that of the last write that reached it, or zero, and so are all bytes
behind them, up to the end of the pages.  What a read gives is the first of these bytes;
and a step that deposits nothing in a slot changes no byte of its buffer. -/
theorem contents_eq_latest_writes (kind : PlatformKind) (page : UInt64) (steps : List Step) :
    let σ := buffers kind page steps
    let d := fun k => deposit k (past kind page steps)
    (∀ k h, σ.Holds k h → h.len = (d k).size ∧
      ∃ r, σ.machine.memory.find? h.region = some r ∧ r.bytes.length = h.capacity.toNat ∧
        (∀ i < h.len.toNat, r.bytes[i]? = some (latestByte (d k).writes i)) ∧
        ∀ i, h.len.toNat ≤ i → i < r.bytes.length → r.bytes[i]? = some 0) ∧
    (∀ k count content, (next kind page steps ⟨k, .use (.read count)⟩).reply = .bytes content →
      content = (d k).first count) ∧
    (∀ k count fill, (next kind page steps ⟨k, .use (.readInto count fill)⟩).reply = .done →
      (next kind page steps ⟨k, .use (.readInto count fill)⟩).out = some ((d k).first count)) ∧
    ∀ step k h, (buffers kind page (steps ++ [step])).Holds k h →
      (step.slot = k → ∀ e : Deposit, e.after step.action (next kind page steps step).reply = e) →
      σ.Holds k h ∧ (buffers kind page (steps ++ [step])).machine.memory.bytes? h.region =
        σ.machine.memory.bytes? h.region := by
  intro σ d
  refine ⟨fun k h hk => hk.bytes_eq, ?_, ?_, fun step k h hk => bytes?_of_no_deposit hk⟩
  · intro k count content hreply
    obtain ⟨h, hh, hcount, hcontent⟩ := useSlot_read σ.custody hreply
    rw [hcontent]
    exact firstBytes_eq hh hcount
  · intro k count fill hreply
    obtain ⟨h, hh, hcount, hout⟩ := useSlot_readInto σ.custody hreply
    rw [← firstBytes_eq hh hcount]
    exact hout

/-- A shorter write leaves the end of a longer one. -/
example :
    (buffers .custom 8 [⟨0, .create 5⟩, ⟨0, .use (.write [1, 2, 3])⟩,
      ⟨0, .use (.write [9])⟩]).machine.memory.bytes? 1 = some [9, 2, 3, 0, 0, 0, 0, 0] := by
  rfl

end Scenario

end SealedPages
