/-
  SealedPages.Proofs.DestroyedHandles
  ───────────────────────────────────
  **HANDLES WHOSE BUFFER IS DESTROYED.**  Where the pages of a buffer do not close again after
  an access, the buffer is destroyed, but the caller still has its handle.  Such a handle may
  be passed to the C interface as before.  Asked for its size, for a store or for a retrieval,
  it is as good as NULL, with one exception: where a pointer is given but no byte is asked for,
  the interface reports the length before it looks at the buffer.  In no case is anything
  called, logged or changed.

  Main statements:
    * `probe_of_null`, `probe_of_destroyed` — a NULL and a destroyed handle, in any scene;
    * `destroyed_handle_probed` — the two of them, after any steps.
-/
import SealedPages.Proofs.StepRuns

namespace SealedPages

/-! ## §1. What the functions say of a destroyed buffer. -/

namespace Handle

variable {bytes : Bytes} {len : UInt64}

theorem store_of_destroyed (hlen : len ≠ 0) :
    store (some .destroyed) (some bytes) len =
      pure (BufferError.nullPointer.code, some .destroyed) := by
  have hstore : store (some .destroyed) (some bytes) len =
      SealedBuffer.destroyed.write platform (bytes.take len.toNat) >>= fun outcome =>
        pure (resultCode outcome.result, some outcome.buffer) := if_neg hlen
  rw [hstore]
  rfl

theorem retrieve_of_destroyed (hlen : len ≠ 0) :
    retrieve (some .destroyed) (some bytes) len =
      pure (BufferError.nullPointer.code, some bytes, some .destroyed) := by
  have hretrieve : retrieve (some .destroyed) (some bytes) len =
      pure (BufferError.nullPointer.code,
        some (bytes.take len.toNat ++ bytes.drop len.toNat), some .destroyed) := if_neg hlen
  rw [hretrieve, List.take_append_drop]

end Handle

/-! ## §2. Probes. -/

namespace HandleScript

/-- What can be asked with a handle that stays with the caller. -/
inductive Probe where
  | store (data : Option Bytes) (len : UInt64)
  | retrieve (len : UInt64) (room : Option Nat) (fill : UInt8)
  | getSize

namespace Probe

/-- The call that asks it of what is passed. -/
def on (passed : Passed) : Probe → Step
  | store data len         => .store passed data len
  | retrieve len room fill => .retrieve passed len room fill
  | getSize                => .getSize passed

/-- Whether a pointer is given, but no byte is asked for. -/
def isVoid : Probe → Bool
  | store (some _) len      => len == 0
  | retrieve len (some _) _ => len == 0
  | _ => false

/-- The answer with an error: the output is what it was, and a size is zero. -/
def rejected (e : BufferError) : Probe → Answer
  | store _ _            => ⟨.code e.code, none⟩
  | retrieve _ room fill => ⟨.code e.code, some ((room.map (List.replicate · fill)).getD [])⟩
  | getSize              => ⟨.size 0, none⟩

end Probe

/-! ## §3. NULL and destroyed handles. -/

section Scenes

variable {c : Script.Scene Variables} {passed : Passed}

/-- **NULL is reported**, whatever else is passed. -/
theorem probe_of_null (h : lookUp c.session passed = none) (probe : Probe) :
    Script.playStep perform c (probe.on passed) = (⟨probe.rejected .nullPointer, [], []⟩, c) := by
  apply Script.playStep_of_unmoved
  cases probe with
  | store data len => exact store_run_of_pure c.machine (Handle.store_of_null (Or.inl h))
  | retrieve len room fill =>
      exact retrieve_run_of_pure c.machine (Handle.retrieve_of_null (Or.inl h))
  | getSize =>
      refine (getSize_run c.session passed c.machine).trans ?_
      rw [h]
      rfl

/-- **So is a destroyed handle**, unless the probe is void. -/
theorem probe_of_destroyed (h : lookUp c.session passed = some .destroyed) (probe : Probe) :
    Script.playStep perform c (probe.on passed) =
      (⟨probe.rejected (if probe.isVoid then .invalidSize else .nullPointer), [], []⟩, c) := by
  apply Script.playStep_of_unmoved
  cases probe with
  | store data len =>
      refine store_run_of_pure c.machine ?_
      rw [h]
      cases data with
      | none => exact Handle.store_of_null (Or.inr rfl)
      | some bytes =>
          by_cases hlen : len = 0
          · subst hlen
            exact Handle.store_zero
          · have hvoid : (Probe.store (some bytes) len).isVoid = false := by
              simpa [Probe.isVoid] using hlen
            rw [hvoid]
            exact Handle.store_of_destroyed hlen
  | retrieve len room fill =>
      refine retrieve_run_of_pure c.machine ?_
      rw [h]
      cases room with
      | none => exact Handle.retrieve_of_null (Or.inr rfl)
      | some room =>
          by_cases hlen : len = 0
          · subst hlen
            exact Handle.retrieve_zero
          · have hvoid : (Probe.retrieve len (some room) fill).isVoid = false := by
              simpa [Probe.isVoid] using hlen
            rw [hvoid]
            exact Handle.retrieve_of_destroyed hlen
  | getSize =>
      refine (getSize_run c.session passed c.machine).trans ?_
      rw [h]
      rfl

end Scenes

/-! ## §4. After any steps. -/

/-- A store whose pages do not close again. -/
def brokenStore : List Step :=
  [.create 0 16, .fault .mprotect [2], .store (some 0) (some [1, 2]) 2]

/-- **A destroyed handle is as good as NULL, except for a void probe.**  After any steps, a
handle whose buffer is destroyed gives the same answer as NULL to every store, retrieval and
question for its size, whatever the pointer and the length; only where a pointer is given and
the length is zero, the code is that of an invalid size.  Nothing is called, logged or
changed. -/
theorem destroyed_handle_probed (steps : List Step) (k : Nat) (null : Passed)
    (hdestroyed : (sceneAfter steps).session.get? k = some .destroyed)
    (hnull : lookUp (sceneAfter steps).session null = none) (probe : Probe) :
    Script.playStep perform (sceneAfter steps) (probe.on null) =
        (⟨probe.rejected .nullPointer, [], []⟩, sceneAfter steps) ∧
      Script.playStep perform (sceneAfter steps) (probe.on (some k)) =
        (⟨probe.rejected (if probe.isVoid then .invalidSize else .nullPointer), [], []⟩,
          sceneAfter steps) := by
  have hlook : lookUp (sceneAfter steps).session (some k) = some .destroyed := hdestroyed
  exact ⟨probe_of_null hnull probe, probe_of_destroyed hlook probe⟩

/-- The handle that a broken store leaves, asked for its first two bytes. -/
theorem retrieve_after_broken_store :
    (sceneAfter brokenStore).session.get? 0 = some .destroyed ∧
      lookUp (sceneAfter brokenStore).session none = none ∧
      Script.playStep perform (sceneAfter brokenStore) (.retrieve (some 0) 2 (some 2) 9) =
        (⟨⟨.code BufferError.nullPointer.code, some [9, 9]⟩, [], []⟩, sceneAfter brokenStore) :=
  ⟨rfl, rfl, (destroyed_handle_probed brokenStore 0 none rfl rfl (.retrieve 2 (some 2) 9)).2⟩

/-- **It is not as good as NULL to every probe**: a broken store leaves a handle to which a
void probe is an invalid size. -/
theorem destroyed_handle_told_apart :
    ¬ ∀ (steps : List Step) (k : Nat) (probe : Probe),
      (sceneAfter steps).session.get? k = some .destroyed →
        (Script.playStep perform (sceneAfter steps) (probe.on (some k))).1 =
          (Script.playStep perform (sceneAfter steps) (probe.on none)).1 := by
  intro h
  have hsame := h brokenStore 0 (.store (some [1, 2]) 0) rfl
  have hdestroyed : lookUp (sceneAfter brokenStore).session (some 0) = some .destroyed := rfl
  have hnull : lookUp (sceneAfter brokenStore).session none = none := rfl
  rw [probe_of_destroyed hdestroyed, probe_of_null hnull] at hsame
  have hcode : BufferError.invalidSize.code = BufferError.nullPointer.code :=
    Reply.code.inj (congrArg (·.reply.reply) hsame)
  exact absurd (BufferError.code_injective hcode) (by decide)

end HandleScript

end SealedPages
