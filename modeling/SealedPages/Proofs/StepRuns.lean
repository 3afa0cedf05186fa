/-
  SealedPages.Proofs.StepRuns
  ───────────────────────────
  **WHAT A STEP COMES TO.**  A step of a script looks up what it is about, calls one function
  and puts back what came of it.  Here is said once what the whole step gives, by what that
  function gives: for the steps of buffers, and for the calls of the C interface.

  Main statements:
    * `BufferScript.use_run`, `BufferScript.letGo_run` — steps on a buffer;
    * `BufferScript.create_run_of_error`, `BufferScript.create_run_of_ok` — creations;
    * `HandleScript.create_run_of_refused`, `HandleScript.create_run_of_ok`,
      `HandleScript.store_run`, `HandleScript.retrieve_run` — calls with a handle;
    * `HandleScript.store_run_of_pure`, `HandleScript.retrieve_run_of_pure` — calls that are
      answered at once.
-/
import SealedPages.Script.Buffers
import SealedPages.Script.Handles

namespace SealedPages

variable {m m' n n' : Machine}

/-! ## §1. Steps of buffers. -/

namespace BufferScript

variable {kind : PlatformKind} {s : Session} {k : Nat}

/-- **The use of a buffer that is there.** -/
theorem use_run {held : SealedBuffer} {u : Use} {reply : Reply} {out : Option Bytes}
    {kept : Option SealedBuffer} (hheld : s.slots.get? k = some held)
    (hrun : (use (kind.platform s.page) held u).run n = ((reply, out, kept), n')) :
    (perform kind s ⟨k, .use u⟩).run n =
      ((⟨reply, out, kept.map (·.status)⟩, { s with slots := s.slots.set k kept }), n') := by
  have huse : (useSlot (kind.platform s.page) s k u).run n =
      ((reply, out, { s with slots := s.slots.set k kept }), n') := by
    unfold useSlot
    rw [hheld]
    exact run_bind_of_eq hrun
  unfold perform act
  refine (run_bind_of_eq huse).trans ?_
  rw [run_pure, Slots.get?_set_self]

/-- The use of a slot that is empty. -/
theorem use_run_of_vacant {u : Use} (hvacant : s.slots.get? k = none) (n : Machine) :
    (perform kind s ⟨k, .use u⟩).run n = ((⟨u.replyVacant, none, none⟩, s), n) := by
  have huse : (useSlot (kind.platform s.page) s k u).run n = ((u.replyVacant, none, s), n) := by
    unfold useSlot
    rw [hvacant]
    rfl
  unfold perform act
  refine (run_bind_of_eq huse).trans ?_
  rw [run_pure, hvacant]
  rfl

/-- **Letting go of what is in a slot**, if anything is. -/
theorem letGo_run (s : Session) (k : Nat) (n : Machine) :
    ∃ s', (perform .system s ⟨k, .use .letGo⟩).run n =
        ((⟨.done, none, none⟩, s'), ((Handle.destroy (s.slots.get? k)).run n).2) ∧
      s'.slots = s.slots.set k none := by
  cases hheld : s.slots.get? k with
  | none =>
      have hsame := s.slots.set_get?_self k
      rw [hheld] at hsame
      exact ⟨s, use_run_of_vacant hheld n, hsame.symm⟩
  | some held => exact ⟨_, use_run (u := .letGo) hheld rfl, rfl⟩

/-- A creation that fails leaves the session as it was. -/
theorem run_create_of_error {p : Platform} (s : Session) (slot : Nat) {size : UInt64}
    {f : Failure BufferError}
    (hrun : StateT.run (SealedBuffer.create p size).run n = (.error f, n')) :
    (create p s slot size).run n = ((.failed f, s), n') := by
  unfold create
  exact run_bind_of_eq hrun

/-- A step in which a creation fails. -/
theorem create_run_of_error (kind : PlatformKind) (s : Session) (slot : Nat) {size : UInt64}
    {f : Failure BufferError}
    (hrun : StateT.run (SealedBuffer.create (kind.platform s.page) size).run n = (.error f, n')) :
    (perform kind s ⟨slot, .create size⟩).run n =
      ((⟨.failed f, none, (s.slots.get? slot).map (·.status)⟩, s), n') := by
  have hact : (act kind s slot (.create size)).run n = ((.failed f, none, s), n') :=
    run_bind_of_eq (run_create_of_error s slot hrun)
  unfold perform
  exact run_bind_of_eq hact

/-- A creation that succeeds: what was in the slot is let go of afterwards. -/
theorem create_run_of_ok (s : Session) (slot : Nat) {size : UInt64} {made : SealedBuffer}
    (hrun : StateT.run (SealedBuffer.create .system size).run n = (.ok made, n')) :
    (perform .system s ⟨slot, .create size⟩).run n =
      ((⟨.done, none, some made.status⟩, { s with slots := s.slots.put slot made }),
        ((Handle.destroy (s.slots.get? slot)).run n').2) := by
  have hcreate : (create .system s slot size).run n =
      ((.done, { s with slots := s.slots.put slot made }),
        ((Handle.destroy (s.slots.get? slot)).run n').2) := by
    unfold create
    refine (run_bind_of_eq hrun).trans ?_
    cases s.slots.get? slot with
    | none => rfl
    | some old => rfl
  have hact : (act .system s slot (.create size)).run n =
      ((.done, none, { s with slots := s.slots.put slot made }),
        ((Handle.destroy (s.slots.get? slot)).run n').2) := run_bind_of_eq hcreate
  have hget : (s.slots.put slot made).get? slot = some made :=
    s.slots.get?_set_self slot (some made)
  unfold perform
  refine (run_bind_of_eq hact).trans ?_
  rw [run_pure, hget]
  rfl

end BufferScript

/-! ## §2. Calls of the C interface. -/

namespace HandleScript

variable {vars : Variables} {passed : Passed} {data out : Option Bytes} {len : UInt64}
  {room : Option Nat} {fill : UInt8} {code : Int32} {after : Handle}

/-- A variable that keeps what it holds. -/
theorem assign_lookUp (vars : Variables) (passed : Passed) :
    assign vars passed (lookUp vars passed) = vars := by
  cases passed with
  | none => rfl
  | some k => exact vars.set_get?_self k

/-- Only a variable can hold a handle. -/
theorem exists_of_lookUp {held : SealedBuffer} (h : lookUp vars passed = some held) :
    ∃ k, passed = some k ∧ vars.get? k = some held :=
  Option.bind_eq_some_iff.1 h

/-- A creation that is refused: one more line, and the variable is emptied. -/
theorem create_run_of_refused (vars : Variables) (slot : Nat) {size : UInt64} {e : BufferError}
    (hrun : StateT.run (SealedBuffer.create .system size).run m = (.error (.refused e), m')) :
    (perform vars (.create slot size)).run m =
      ((⟨.handle false, none⟩, vars.set slot none),
        ((Handle.destroy (vars.get? slot)).run
          { m' with log := m'.log ++ [.handleRefused size e] }).2) := by
  have hmade : (Handle.create size).run m =
      (.ok none, { m' with log := m'.log ++ [.handleRefused size e] }) := run_bind_of_eq hrun
  have hcreate : (create vars slot size).run m =
      ((.handle false, vars.set slot none), ((Handle.destroy (vars.get? slot)).run
        { m' with log := m'.log ++ [.handleRefused size e] }).2) := run_bind_of_eq hmade
  have hact : (act vars (.create slot size)).run m =
      ((.handle false, none, vars.set slot none), ((Handle.destroy (vars.get? slot)).run
        { m' with log := m'.log ++ [.handleRefused size e] }).2) := run_bind_of_eq hcreate
  exact run_bind_of_eq hact

/-- A creation that succeeds. -/
theorem create_run_of_ok (vars : Variables) (slot : Nat) {size : UInt64} {made : SealedBuffer}
    (hrun : StateT.run (SealedBuffer.create .system size).run m = (.ok made, m')) :
    (perform vars (.create slot size)).run m =
      ((⟨.handle true, none⟩, vars.set slot (some made)),
        ((Handle.destroy (vars.get? slot)).run m').2) := by
  have hmade : (Handle.create size).run m = (.ok (some made), m') := run_bind_of_eq hrun
  have hcreate : (create vars slot size).run m =
      ((.handle true, vars.set slot (some made)),
        ((Handle.destroy (vars.get? slot)).run m').2) := run_bind_of_eq hmade
  have hact : (act vars (.create slot size)).run m =
      ((.handle true, none, vars.set slot (some made)),
        ((Handle.destroy (vars.get? slot)).run m').2) := run_bind_of_eq hcreate
  exact run_bind_of_eq hact

theorem store_run (h : (Handle.store (lookUp vars passed) data len).run m = ((code, after), m')) :
    (perform vars (.store passed data len)).run m =
      ((⟨.code code, none⟩, assign vars passed after), m') := by
  have hact : (act vars (.store passed data len)).run m =
      ((.code code, none, assign vars passed after), m') := run_bind_of_eq h
  exact run_bind_of_eq hact

/-- **A store that is answered at once** changes nothing. -/
theorem store_run_of_pure (m : Machine)
    (h : Handle.store (lookUp vars passed) data len = pure (code, lookUp vars passed)) :
    (perform vars (.store passed data len)).run m = ((⟨.code code, none⟩, vars), m) := by
  have hstore : (Handle.store (lookUp vars passed) data len).run m =
      ((code, lookUp vars passed), m) := by
    rw [h, run_pure]
  have hrun := store_run hstore
  rwa [assign_lookUp] at hrun

theorem retrieve_run
    (h : (Handle.retrieve (lookUp vars passed) (room.map (List.replicate · fill)) len).run m =
      ((code, out, after), m')) :
    (perform vars (.retrieve passed len room fill)).run m =
      ((⟨.code code, some (out.getD [])⟩, assign vars passed after), m') := by
  have hact : (act vars (.retrieve passed len room fill)).run m =
      ((.code code, some (out.getD []), assign vars passed after), m') := run_bind_of_eq h
  exact run_bind_of_eq hact

/-- **A retrieval that is answered at once** changes nothing, and no byte of the output. -/
theorem retrieve_run_of_pure (m : Machine)
    (h : Handle.retrieve (lookUp vars passed) (room.map (List.replicate · fill)) len =
      pure (code, room.map (List.replicate · fill), lookUp vars passed)) :
    (perform vars (.retrieve passed len room fill)).run m =
      ((⟨.code code, some ((room.map (List.replicate · fill)).getD [])⟩, vars), m) := by
  have hretrieve : (Handle.retrieve (lookUp vars passed) (room.map (List.replicate · fill)) len).run m =
      ((code, room.map (List.replicate · fill), lookUp vars passed), m) := by
    rw [h, run_pure]
  have hrun := retrieve_run hretrieve
  rwa [assign_lookUp] at hrun

theorem getSize_run (vars : Variables) (passed : Passed) (m : Machine) :
    (perform vars (.getSize passed)).run m =
      ((⟨.size (Handle.getSize (lookUp vars passed)), none⟩, vars), m) :=
  rfl

end HandleScript

end SealedPages
