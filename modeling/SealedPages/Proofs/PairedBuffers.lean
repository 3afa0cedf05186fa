/-
  SealedPages.Proofs.PairedBuffers
  ────────────────────────────────
  **THE SAME OPERATION IN TWO RUNS.**  A buffer asks nothing of the machine but the
  services of its platform.  So if the services of two platforms are coupled, then so are
  the operations of two buffers that differ only in the region they hold: in the second
  run the region `j` of the first one has the number `ρ j`.  What is copied in and out is
  related by `S`.

  The laws are grouped by what an operation needs: every one may have to erase pages,
  only an access grants and revokes, only a destruction opens pages to wipe them, and
  only a creation pins and seals.

  Main statements:
    * `dispose_coupled`, `destroy_coupled` — destroying;
    * `access_coupled`, `write_coupled`, `readInto_coupled`, `read_coupled` — using;
    * `create_founded`, `create_coupled` — creating;
    * `Interchangeable.accessing`, `Interchangeable.disposing`,
      `Interchangeable.furnishing` — all this under the same numbers.
-/
import SealedPages.Proofs.Coupling
import SealedPages.Proofs.Renaming

namespace SealedPages

/-! ## §1. Coupled services. -/

/-- The services that erase open pages of the region `j`. -/
structure Erasing (R : Link) (ρ : RegionId → RegionId) (p p' : Platform) (j : RegionId) :
    Prop where
  wipe : ∀ L, Coupled R Eq (p.wipe (.front j L)) (p'.wipe (.front (ρ j) L))
  unpin : ∀ L, Coupled R Eq (SealedBuffer.unpin p (.front j L))
    (SealedBuffer.unpin p' (.front (ρ j) L))
  release : ∀ L, Coupled R Eq (p.release (.front j L)) (p'.release (.front (ρ j) L))
  noteDestroyed : Coupled R Eq (Machine.note (.destroyed j)) (Machine.note (.destroyed (ρ j)))

/-- What an access does to the region `j`. -/
structure Accessing (R : Link) (ρ : RegionId → RegionId) (S : Bytes → Bytes → Prop)
    (p p' : Platform) (j : RegionId) : Prop extends Erasing R ρ p p' j where
  grant : ∀ L, Coupled R Eq (announced (p.protect (.front j L) .readWrite) (.grantRefused j))
    (announced (p'.protect (.front (ρ j) L) .readWrite) (.grantRefused (ρ j)))
  revoke : ∀ L, Coupled R Eq (announced (p.protect (.front j L) .noAccess) (.revokeRefused j))
    (announced (p'.protect (.front (ρ j) L) .noAccess) (.revokeRefused (ρ j)))
  copyIn : ∀ n data data', S data data' →
    Coupled R Eq (Kernel.copyIn (.front j n) data) (Kernel.copyIn (.front (ρ j) n) data')
  copyOut : ∀ n, Coupled R (fun copy copy' => S copy copy' ∧ copy.length ≤ n.toNat)
    (Kernel.copyOut (.front j n)) (Kernel.copyOut (.front (ρ j) n))

/-- What a destruction does to the region `j`. -/
structure Disposing (R : Link) (ρ : RegionId → RegionId) (p p' : Platform) (j : RegionId) :
    Prop extends Erasing R ρ p p' j where
  reopen : ∀ L, Coupled R Eq (announced (p.protect (.front j L) .readWrite) (.abandoned j L))
    (announced (p'.protect (.front (ρ j) L) .readWrite) (.abandoned (ρ j) L))

/-- What a creation does to its new region `j`. -/
structure Furnishing (R : Link) (ρ : RegionId → RegionId) (p p' : Platform) (j : RegionId) :
    Prop extends Erasing R ρ p p' j where
  lock : ∀ L, Coupled R Eq (announced (p.lock (.front j L)) (.lockRefused j L))
    (announced (p'.lock (.front (ρ j) L)) (.lockRefused (ρ j) L))
  close : ∀ L, Coupled R Eq (announced (p.protect (.front j L) .noAccess) (.sealRefused j))
    (announced (p'.protect (.front (ρ j) L) .noAccess) (.sealRefused (ρ j)))
  noteCreated : ∀ size L, Coupled R Eq (Machine.note (.created j size L))
    (Machine.note (.created (ρ j) size L))

/-- What a creation asks of the platform before it has a region, and then of the region. -/
structure Creating (R : Link) (ρ : RegionId → RegionId) (p p' : Platform) : Prop where
  pageSize : Coupled R Eq p.pageSize p'.pageSize
  obtain : ∀ L, Coupled R (Both fun j j' => j' = ρ j ∧ Furnishing R ρ p p' j)
    (SealedBuffer.obtain p L).run (SealedBuffer.obtain p' L).run

/-- **What two requests for pages lead to.**  Both fail in the same way; or both make a
region, and from then on a narrower link may hold, which knows of the region. -/
inductive Founded (R : Link) (ρ : RegionId → RegionId) (p p' : Platform) :
    Except (Failure BufferError) RegionId × Machine →
      Except (Failure BufferError) RegionId × Machine → Prop
  | error (f : Failure BufferError) {m n : Machine} (linked : R m n) :
      Founded R ρ p p' (.error f, m) (.error f, n)
  | ok {R₁ : Link} {j : RegionId} {m n : Machine} (furnishing : Furnishing R₁ ρ p p' j)
      (linked : R₁ m n) (weaken : ∀ {m n}, R₁ m n → R m n) :
      Founded R ρ p p' (.ok j, m) (.ok (ρ j), n)

/-- What a creation asks of the platform, where a request for pages is known to be for whole
pages of a size that can be `Reported`. -/
structure Founding (R : Link) (Reported : UInt64 → Prop) (ρ : RegionId → RegionId)
    (p p' : Platform) : Prop where
  pageSize : Coupled R (fun page page' => page' = page ∧ Reported page) p.pageSize p'.pageSize
  obtain : ∀ {L page}, Reported page → Pages.checkWholePages L page = .ok () → ∀ {m n}, R m n →
    Founded R ρ p p' (StateT.run (SealedBuffer.obtain p L).run m)
      (StateT.run (SealedBuffer.obtain p' L).run n)

theorem Founded.of_both {R R₁ : Link} {ρ : RegionId → RegionId} {p p' : Platform}
    {x y : Except (Failure BufferError) RegionId × Machine}
    (hresult : Both (fun j j' => j' = ρ j ∧ Furnishing R₁ ρ p p' j) x.1 y.1)
    (hlinked : R₁ x.2 y.2) (hweaken : ∀ {m n}, R₁ m n → R m n) : Founded R ρ p p' x y := by
  obtain ⟨r, m⟩ := x
  obtain ⟨r', n⟩ := y
  cases hresult with
  | error f => exact .error f (hweaken hlinked)
  | ok related =>
      obtain ⟨rfl, hF⟩ := related
      exact .ok hF hlinked hweaken

/-- A link that needs no narrowing. -/
theorem Creating.founding {R : Link} {ρ : RegionId → RegionId} {p p' : Platform}
    (hC : Creating R ρ p p') : Founding R (fun _ => True) ρ p p' where
  pageSize := hC.pageSize.mono fun _ _ h => ⟨h.symm, trivial⟩
  obtain {L _} _ _ m n hR := by
    obtain ⟨hresult, hlinked⟩ := hC.obtain L m n hR
    exact .of_both hresult hlinked id

namespace SealedBuffer

variable {R : Link} {ρ : RegionId → RegionId} {S : Bytes → Bytes → Prop} {p p' : Platform}
  {h : Holding} {b : SealedBuffer} {α β : Type} {Q : α → β → Prop}

/-! ## §2. Destroying. -/

/-- What is done to pages once they are open. -/
theorem erase_coupled (hE : Erasing R ρ p p' h.region) :
    Coupled R Eq
      (p.wipe h.pages >>= fun _ => unpin p h.pages >>= fun _ => p.release h.pages >>= fun _ =>
        Machine.note (.destroyed h.region))
      (p'.wipe (h.rename ρ).pages >>= fun _ => unpin p' (h.rename ρ).pages >>= fun _ =>
        p'.release (h.rename ρ).pages >>= fun _ => Machine.note (.destroyed (ρ h.region))) := by
  refine Coupled.seq (hE.wipe _) ?_
  refine Coupled.seq (hE.unpin _) ?_
  exact Coupled.seq (hE.release _) hE.noteDestroyed

/-- Open pages are erased without being opened first. -/
theorem dispose_coupled_of_open (hE : Erasing R ρ p p' h.region) (hmode : h.mode = .readWrite) :
    Coupled R Eq (dispose p h) (dispose p' (h.rename ρ)) := by
  have hopen : openForWipe p h = Pure.pure .granted := by
    unfold openForWipe
    rw [hmode]
  have hopen' : openForWipe p' (h.rename ρ) = Pure.pure .granted := by
    unfold openForWipe
    rw [show (h.rename ρ).mode = .readWrite from hmode]
  unfold dispose
  rw [hopen, hopen']
  exact erase_coupled hE

/-- **Buffers are destroyed, or abandoned, in both runs.** -/
theorem dispose_coupled (hD : Disposing R ρ p p' h.region) :
    Coupled R Eq (dispose p h) (dispose p' (h.rename ρ)) := by
  cases hmode : h.mode with
  | readWrite => exact dispose_coupled_of_open hD.toErasing hmode
  | noAccess =>
      have hopen : openForWipe p h = p.protect h.pages .readWrite := by
        unfold openForWipe
        rw [hmode]
      have hopen' : openForWipe p' (h.rename ρ) = p'.protect (h.rename ρ).pages .readWrite := by
        unfold openForWipe
        rw [show (h.rename ρ).mode = .noAccess from hmode]
      unfold dispose
      rw [hopen, hopen']
      have hstop : Coupled R Eq (pure () : MachineM Unit) (pure ()) := .pure rfl
      exact Coupled.bind_announced (hD.reopen _) rfl rfl (erase_coupled hD.toErasing) hstop

theorem destroy_coupled (hD : ∀ h, b.holding = some h → Disposing R ρ p p' h.region) :
    Coupled R (fun b₁ b₁' => b₁' = b₁.rename ρ) (destroy p b) (destroy p' (b.rename ρ)) := by
  rcases b with ⟨_ | h⟩
  · exact .pure rfl
  · exact (dispose_coupled (hD h rfl)).seq (.pure rfl)

theorem letGo_coupled (hD : ∀ h, b.holding = some h → Disposing R ρ p p' h.region) :
    Coupled R Eq (letGo p b) (letGo p' (b.rename ρ)) :=
  (destroy_coupled hD).bind fun _ _ _ => .pure rfl

/-! ## §3. Accesses. -/

/-- Two accesses that end in the same way, with related values. -/
inductive Access.Paired (Q : α → β → Prop) : Access α → Access β → Prop
  | closed : Paired Q .closed .closed
  | finished {a : α} {a' : β} (related : Q a a') : Paired Q (.finished a) (.finished a')
  | broken : Paired Q .broken .broken

/-- **Both accesses are refused, or finish, or break.** -/
theorem access_coupled {body : MachineM α} {body' : MachineM β}
    (hA : Accessing R ρ S p p' h.region) (hbody : Coupled R Q body body') :
    Coupled R (fun x x' => Access.Paired Q x.1 x'.1 ∧ x'.2 = x.2.rename ρ)
      (access p h body) (access p' (h.rename ρ) body') := by
  unfold access
  refine Coupled.bind_announced (hA.grant _) rfl rfl ?_ (.pure ⟨.closed, rfl⟩)
  refine hbody.bind fun a a' hQ => ?_
  refine Coupled.bind_announced (hA.revoke _) rfl rfl (.pure ⟨.finished hQ, rfl⟩) ?_
  -- the buffer records that its pages are open, so they are erased as they are
  have hE : Erasing R ρ p p' { h with mode := .readWrite }.region := hA.toErasing
  exact (dispose_coupled_of_open hE rfl).seq (.pure ⟨.broken, rfl⟩)

/-- Two outcomes with related results, whose buffers differ in the number of the region. -/
structure Outcome.Paired (ρ : RegionId → RegionId) (Q : α → β → Prop) (o : Outcome α)
    (o' : Outcome β) : Prop where
  result : Both Q o.result o'.result
  buffer : o'.buffer = o.buffer.rename ρ

/-- Outcomes that are paired under the same numbers, with the same value, are the same. -/
theorem Outcome.Paired.eq {o o' : Outcome α} (h : Outcome.Paired id Eq o o') : o = o' := by
  have hbuffer := h.buffer
  rw [rename_id] at hbuffer
  cases o
  cases o'
  exact congr (congrArg Outcome.mk h.result.eq) hbuffer.symm

theorem Access.Paired.result {a : Access α} {a' : Access β} (h : Access.Paired Q a a') :
    Both Q a.result a'.result := by
  cases h with
  | closed => exact .error _
  | finished related => exact .ok related
  | broken => exact .error _

/-- What is known of a request of the same length in both runs. -/
theorem holdingFor_cases (ρ : RegionId → RegionId) (b : SealedBuffer) (count : Nat) :
    (∃ e, b.holdingFor count = .error e ∧ (b.rename ρ).holdingFor count = .error e) ∨
    (∃ h, b.holdingFor count = .ok h ∧ (b.rename ρ).holdingFor count = .ok (h.rename ρ) ∧
      b.holding = some h) := by
  rw [holdingFor_rename]
  cases hb : b.holdingFor count with
  | error e => exact Or.inl ⟨e, rfl, rfl⟩
  | ok h =>
      refine Or.inr ⟨h, rfl, rfl, ?_⟩
      unfold holdingFor at hb
      split at hb
      · cases hb
      · rename_i h' hh
        split at hb
        · cases hb
        · cases hb
          exact hh

/-- **Two writes of related data of the same length.** -/
theorem write_coupled {data data' : Bytes}
    (hA : ∀ h, b.holding = some h → Accessing R ρ S p p' h.region) (hdata : S data data')
    (hlen : data'.length = data.length) :
    Coupled R (Outcome.Paired ρ Eq) (write p b data) (write p' (b.rename ρ) data') := by
  unfold write
  rw [hlen]
  rcases holdingFor_cases ρ b data.length with ⟨e, hb, hb'⟩ | ⟨h, hb, hb', hh⟩
  · rw [hb, hb']
    exact .pure ⟨.error e, rfl⟩
  · rw [hb, hb']
    refine (access_coupled (hA h hh) ((hA h hh).copyIn _ _ _ hdata)).bind ?_
    rintro ⟨a, b₁⟩ ⟨a', b₁'⟩ ⟨ha, hb₁⟩
    exact .pure ⟨ha.result, hb₁⟩

/-- What two reads leave in the `count` bytes of the caller: copies that are related, or the
same bytes where nothing was read. -/
def Copies (S : Bytes → Bytes → Prop) (count : Nat) (result : Except BufferError Unit)
    (out out' : Bytes) : Prop :=
  match result with
  | .ok _    => S out out' ∧ out.length ≤ count
  | .error _ => out' = out

/-- **Two reads over the same bytes.**  Where a read fails, its bytes tell nothing of what
the buffer holds. -/
theorem readInto_coupled (hA : ∀ h, b.holding = some h → Accessing R ρ S p p' h.region)
    (out : Bytes) :
    Coupled R (fun x x' => Outcome.Paired ρ Eq x.2 x'.2 ∧
        Copies S out.length x.2.result x.1 x'.1)
      (readInto p b out) (readInto p' (b.rename ρ) out) := by
  unfold readInto
  rcases holdingFor_cases ρ b out.length with ⟨e, hb, hb'⟩ | ⟨h, hb, hb', hh⟩
  · rw [hb, hb']
    exact .pure ⟨⟨.error e, rfl⟩, rfl⟩
  · rw [hb, hb']
    refine (access_coupled (hA h hh) ((hA h hh).copyOut _)).bind ?_
    rintro ⟨a, b₁⟩ ⟨a', b₁'⟩ ⟨ha, hb₁⟩
    refine .pure ⟨⟨ha.result.map fun _ _ _ => rfl, hb₁⟩, ?_⟩
    cases ha with
    | closed => exact rfl
    | finished related => exact ⟨related.1, Nat.le_trans related.2 (Nat.mod_le _ _)⟩
    | broken => exact rfl

/-- **Two reads of new bytes.** -/
theorem read_coupled (hA : ∀ h, b.holding = some h → Accessing R ρ S p p' h.region)
    (count : Nat) :
    Coupled R (Outcome.Paired ρ S) (read p b count) (read p' (b.rename ρ) count) := by
  rw [read_eq, read_eq]
  rcases holdingFor_cases ρ b count with ⟨e, hb, hb'⟩ | ⟨h, hb, hb', hh⟩
  · rw [hb, hb']
    exact .pure ⟨.error e, rfl⟩
  · rw [hb, hb']
    refine (readInto_coupled hA _).bind ?_
    rintro ⟨out, ⟨result, b₁⟩⟩ ⟨out', ⟨result', b₁'⟩⟩ ⟨⟨hresult, hb₁⟩, hcopies⟩
    refine .pure ⟨?_, hb₁⟩
    cases hresult with
    | ok related => exact .ok hcopies.1
    | error e => exact .error e

/-! ## §4. Creating. -/

variable {j : RegionId}

theorem enclose_coupled (hF : Furnishing R ρ p p' j) (L : UInt64) :
    Coupled R (Both Eq) (enclose p (.front j L)).run (enclose p' (.front (ρ j) L)).run := by
  unfold enclose
  refine Coupled.bind_try ((hF.lock L).demand BufferError.lockFailed) fun _ _ _ => ?_
  exact Coupled.undoing (hF.unpin L) ((hF.close L).demand BufferError.protectFailed)

/-- Both prepare their pages, or fail in the same way. -/
theorem prepare_founded {Reported : UInt64 → Prop} (hC : Founding R Reported ρ p p')
    {L page : UInt64} (hpage : Reported page) (hL : Pages.checkWholePages L page = .ok ())
    {m n : Machine} (hR : R m n) :
    Founded R ρ p p' (StateT.run (prepare p L).run m) (StateT.run (prepare p' L).run n) := by
  have hobtain := hC.obtain hpage hL hR
  generalize hx : StateT.run (obtain p L).run m = x at hobtain
  generalize hy : StateT.run (obtain p' L).run n = y at hobtain
  unfold prepare
  cases hobtain with
  | error f linked =>
      rw [run_bind_of_error hx, run_bind_of_error hy]
      exact .error f linked
  | @ok R₁ j m₁ n₁ hF linked weaken =>
      rw [run_bind_of_ok hx, run_bind_of_ok hy]
      -- from here on the pages are known to be there
      have houtfit : Coupled R₁ (Both fun i i' => i' = ρ i ∧ Furnishing R₁ ρ p p' i)
          (undoing (p.release (.front j L)) (do
            p.wipe (.front j L)
            enclose p (.front j L)) >>= fun _ => Pure.pure j : TryM BufferError RegionId).run
          (undoing (p'.release (.front (ρ j) L)) (do
            p'.wipe (.front (ρ j) L)
            enclose p' (.front (ρ j) L)) >>= fun _ => Pure.pure (ρ j) :
              TryM BufferError RegionId).run := by
        refine Coupled.bind_try (Q := Eq) ?_ fun _ _ _ => .ok ⟨rfl, hF⟩
        refine Coupled.undoing (hF.release L) ?_
        exact Coupled.lift_bind (hF.wipe L) fun _ _ _ => enclose_coupled hF L
      obtain ⟨hresult, hlinked⟩ := houtfit _ _ linked
      exact .of_both hresult hlinked weaken

/-- **Two creations of the same size**: both fail in the same way, or both make a buffer. -/
theorem create_founded {Reported : UInt64 → Prop} (hC : Founding R Reported ρ p p')
    (size : UInt64) :
    Coupled R (Both fun b b' => b' = b.rename ρ) (create p size).run (create p' size).run := by
  unfold create
  split
  · exact .refuse _
  · rename_i hsize
    refine Coupled.lift_bind hC.pageSize ?_
    rintro _ page ⟨rfl, hpage⟩
    -- under the same page size, the rounding is the same
    refine Coupled.bind_try (Q := fun c c' => c' = c ∧ roundUp size page = .ok c) ?_ ?_
    · cases roundUp size page with
      | error t => exact .pure (.error _)
      | ok c => exact .ok ⟨rfl, rfl⟩
    · rintro _ capacity? ⟨rfl, hround⟩
      cases capacity? with
      | none => exact .refuse _
      | some capacity =>
          intro m n hR
          have hprepare :=
            prepare_founded hC hpage (Pages.checkWholePages_of_roundUp hsize hround) hR
          generalize hx : StateT.run (prepare p capacity).run m = x at hprepare
          generalize hy : StateT.run (prepare p' capacity).run n = y at hprepare
          cases hprepare with
          | error f linked =>
              rw [run_bind_of_error hx, run_bind_of_error hy]
              exact ⟨.error f, linked⟩
          | ok hF linked weaken =>
              rw [run_bind_of_ok hx, run_bind_of_ok hy]
              refine Coupled.apply_weaken ?_ linked weaken
              exact Coupled.lift_bind (hF.noteCreated size capacity) fun _ _ _ => .ok rfl

theorem create_coupled (hC : Creating R ρ p p') (size : UInt64) :
    Coupled R (Both fun b b' => b' = b.rename ρ) (create p size).run (create p' size).run :=
  create_founded hC.founding size

end SealedBuffer

/-! ## §5. The same region and the same bytes. -/

/-- **Platforms that can stand for one another** on the region `j`, which has that number in
both runs: whatever a buffer asks of them is answered the same. -/
structure Interchangeable (R : Link) (p p' : Platform) (j : RegionId) : Prop where
  wipe : ∀ L, Coupled R Eq (p.wipe (.front j L)) (p'.wipe (.front j L))
  /-- The verdicts may differ here, for a buffer only logs them. -/
  unpin : ∀ L, Coupled R Eq (SealedBuffer.unpin p (.front j L)) (SealedBuffer.unpin p' (.front j L))
  release : ∀ L, Coupled R Eq (p.release (.front j L)) (p'.release (.front j L))
  lock : ∀ L, Coupled R Eq (p.lock (.front j L)) (p'.lock (.front j L))
  protect : ∀ L mode, Coupled R Eq (p.protect (.front j L) mode) (p'.protect (.front j L) mode)
  note : ∀ l, Coupled R Eq (Machine.note l) (Machine.note l)
  copyIn : ∀ n data, Coupled R Eq (Kernel.copyIn (.front j n) data) (Kernel.copyIn (.front j n) data)
  copyOut : ∀ n, Coupled R Eq (Kernel.copyOut (.front j n)) (Kernel.copyOut (.front j n))

namespace Interchangeable

variable {R : Link} {p p' : Platform} {j : RegionId} (h : Interchangeable R p p' j)

include h

theorem erasing : Erasing R id p p' j where
  wipe := h.wipe
  unpin := h.unpin
  release := h.release
  noteDestroyed := h.note _

theorem accessing : Accessing R id Eq p p' j where
  toErasing := h.erasing
  grant L := (h.protect L .readWrite).announced (h.note _)
  revoke L := (h.protect L .noAccess).announced (h.note _)
  copyIn n data data' hdata := by
    subst hdata
    exact h.copyIn n data
  copyOut n := by
    intro m m' hR
    obtain ⟨hcopy, hR₁⟩ := h.copyOut n m m' hR
    exact ⟨⟨hcopy, m.memory.length_read_le (.front j n)⟩, hR₁⟩

theorem disposing : Disposing R id p p' j where
  toErasing := h.erasing
  reopen L := (h.protect L .readWrite).announced (h.note _)

theorem furnishing : Furnishing R id p p' j where
  toErasing := h.erasing
  lock L := (h.lock L).announced (h.note _)
  close L := (h.protect L .noAccess).announced (h.note _)
  noteCreated _ _ := h.note _

end Interchangeable

end SealedPages
