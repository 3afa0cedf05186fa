/-
  SealedPages.Proofs.ReadOutputs
  ──────────────────────────────
  **WHAT A READ LEAVES WITH ITS CALLER.**  The caller of a read hands over bytes of any length,
  with anything in them.  They come back as the first bytes of the buffer where access was
  granted and revoked again, as zeros where it could not be revoked, and as they were in every
  other case.  The two ways in which pages cannot be protected give the same error; only the
  calls tell them apart, and with them what the caller has.

  Main statements:
    * `Disclosed.ok_or_nothing` — a read that fails leaves no byte of the buffer behind;
    * `readInto_disclosed`, `retrieve_retrieved` — a read over bytes, and one through the C
      interface, from any machine in custody;
    * `outputs_of_reads` — the same after any steps.
-/
import SealedPages.Proofs.Accesses
import SealedPages.Proofs.StepRuns

namespace SealedPages

open Computability

variable {v : View} {b : SealedBuffer} {m : Machine} {out out' : Bytes} {calls : List Event}
  {result : Except BufferError Unit}

/-! ## §1. The bytes that come back. -/

/-- **The bytes that come back from a read over `out`**, by the calls of the read and its
result.  What the buffer holds is in the memory of `m`. -/
inductive Disclosed (v : View) (b : SealedBuffer) (m : Machine) (out : Bytes) :
    List Event → Except BufferError Unit → Bytes → Prop
  /-- The buffer is destroyed. -/
  | destroyed (hb : b.holding = none) :
      Disclosed v b m out [] (.error .nullPointer) out
  /-- No byte is asked for, or more than the buffer has. -/
  | outOfRange {h : Holding} (hb : b.holding = some h)
      (hcount : out.length = 0 ∨ h.len.toNat < out.length) :
      Disclosed v b m out [] (.error .invalidSize) out
  /-- Access is not granted. -/
  | withheld {h : Holding} {calls : List Event} (hb : b.holding = some h)
      (hcalls : calls ∈ (v.spelling h.region h.capacity).protect .readWrite .refused) :
      Disclosed v b m out calls (.error .protectFailed) out
  /-- Access is granted, and revoked after the copy. -/
  | copied {h : Holding} {calls : List Event} {r : Region} (hb : b.holding = some h)
      (hcalls : calls ∈ (v.spelling h.region h.capacity).protect .readWrite .granted *
        (v.spelling h.region h.capacity).protect .noAccess .granted)
      (hr : m.memory.find? h.region = some r) (hfits : out.length ≤ r.bytes.length) :
      Disclosed v b m out calls (.ok ()) (r.bytes.take out.length)
  /-- Access is granted, and cannot be revoked after the copy. -/
  | takenBack {h : Holding} {calls : List Event} (hb : b.holding = some h)
      (hcalls : calls ∈ (v.spelling h.region h.capacity).protect .readWrite .granted *
        (v.spelling h.region h.capacity).protect .noAccess .refused *
        (v.spelling h.region h.capacity).erasing) :
      Disclosed v b m out calls (.error .protectFailed) (Bytes.zeros out.length)

/-- As many bytes come back as were handed over. -/
theorem Disclosed.length_eq (d : Disclosed v b m out calls result out') :
    out'.length = out.length := by
  cases d with
  | destroyed | outOfRange | withheld => rfl
  | copied hb hcalls hr hfits => rw [List.length_take, Nat.min_eq_left hfits]
  | takenBack => exact Bytes.length_zeros _

/-- **A read that fails leaves no byte of the buffer behind**: the caller has what it had, or
zeros. -/
theorem Disclosed.ok_or_nothing (d : Disclosed v b m out calls result out') :
    result = .ok () ∨ out' = out ∨ out' = Bytes.zeros out.length := by
  cases d with
  | destroyed | outOfRange | withheld => exact Or.inr (Or.inl rfl)
  | copied => exact Or.inl rfl
  | takenBack => exact Or.inr (Or.inr rfl)

/-- A length that is refused leaves the bytes as they are. -/
theorem Disclosed.of_error {e : BufferError} (hb : b.holdingFor out.length = .error e) :
    Disclosed v b m out (v.calls []) (.error e) out := by
  rcases SealedBuffer.holdingFor_eq_error hb with ⟨hnone, rfl⟩ | ⟨h, hsome, hcount, rfl⟩
  · exact .destroyed hnone
  · exact .outOfRange hsome hcount

/-- **A read over bytes.** -/
theorem readInto_disclosed (kind : BufferScript.PlatformKind) (page : UInt64)
    (hheld : ∀ h, b.holding = some h → (m.story h.region).Held kind.view h) (out : Bytes) :
    ∃ out' o new m', (b.readInto (kind.platform page) out).run m = ((out', o), m') ∧
      m'.trace = m.trace ++ new ∧
      Disclosed kind.view b m out (kind.view.calls new) o.result out' := by
  rcases SealedBuffer.readInto_cases kind page hheld out with
    ⟨e, hb, hrun⟩ | ⟨h, r, a, b', new, m', hb, hr, hfits, hrun, hended, hnew, hcalls, -⟩
  · exact ⟨out, _, [], m, hrun, (List.append_nil _).symm, .of_error hb⟩
  · obtain ⟨hsome, -⟩ := SealedBuffer.holdingFor_eq_ok hb
    refine ⟨a.fillOut out, _, new, m', hrun, hnew, ?_⟩
    cases hended with
    | closed => exact .withheld hsome hcalls
    | broken => exact .takenBack hsome hcalls
    | finished hturned =>
        have hcopied : Disclosed kind.view b m out (kind.view.calls new) (.ok ())
            (r.bytes.take out.length) := .copied hsome hcalls hr hfits
        rwa [← hturned.1] at hcopied

/-! ## §2. Through the C interface. -/

/-- **What comes back from a retrieval of `len` bytes over `out`**: its calls, its code, and
the whole output.  Only the first `len` bytes of it are ever written to. -/
inductive Retrieved (handle : Handle) (m : Machine) (out : Option Bytes) (len : UInt64) :
    List Event → Int32 → Option Bytes → Prop
  /-- A NULL is passed. -/
  | null (hnull : handle = none ∨ out = none) :
      Retrieved handle m out len [] BufferError.nullPointer.code out
  /-- No byte is asked for, which is refused before the buffer is looked at. -/
  | empty {b : SealedBuffer} {bytes : Bytes} (hhandle : handle = some b) (hout : out = some bytes)
      (hlen : len = 0) : Retrieved handle m out len [] BufferError.invalidSize.code out
  /-- The first bytes of the output are read over. -/
  | reading {b : SealedBuffer} {bytes front : Bytes} {calls : List Event}
      {result : Except BufferError Unit} (hhandle : handle = some b) (hout : out = some bytes)
      (hlen : len ≠ 0)
      (hfront : Disclosed .systemCalls b m (bytes.take len.toNat) calls result front) :
      Retrieved handle m out len calls (Handle.resultCode result)
        (some (front ++ bytes.drop len.toNat))

namespace Retrieved

variable {handle : Handle} {out out' : Option Bytes} {len : UInt64} {code : Int32}

/-- The bytes beyond the first `len` are as they were. -/
theorem beyond_eq (d : Retrieved handle m out len calls code out') :
    out'.map (·.drop len.toNat) = out.map (·.drop len.toNat) := by
  cases d with
  | null | empty => rfl
  | @reading b bytes front calls result hhandle hout hlen hfront =>
      have hlength := hfront.length_eq
      rw [List.length_take] at hlength
      rw [hout]
      show some ((front ++ bytes.drop len.toNat).drop len.toNat) = some (bytes.drop len.toNat)
      rcases Nat.le_total len.toNat bytes.length with hle | hge
      · rw [List.drop_left' (hlength.trans (Nat.min_eq_left hle))]
      · -- the output ends before them
        rw [List.drop_eq_nil_of_le hge, List.append_nil, List.drop_eq_nil_of_le (by omega)]

/-- **A retrieval that fails leaves no byte of the buffer behind.** -/
theorem ok_or_nothing (d : Retrieved handle m out len calls code out') :
    code = successCode ∨ out' = out ∨ ∃ bytes, out = some bytes ∧
      out' = some (Bytes.zeros (bytes.take len.toNat).length ++ bytes.drop len.toNat) := by
  cases d with
  | null | empty => exact Or.inr (Or.inl rfl)
  | @reading b bytes front calls result _ hout _ hfront =>
      rcases hfront.ok_or_nothing with rfl | hsame | hzeros
      · exact Or.inl rfl
      · rw [hsame, List.take_append_drop]
        exact Or.inr (Or.inl hout.symm)
      · rw [hzeros]
        exact Or.inr (Or.inr ⟨bytes, hout, rfl⟩)

end Retrieved

/-- **A retrieval.** -/
theorem retrieve_retrieved {handle : Handle}
    (hheld : ∀ b, handle = some b → ∀ h, b.holding = some h →
      (m.story h.region).Held .systemCalls h) (out : Option Bytes) (len : UInt64) :
    ∃ code out' after new m', (Handle.retrieve handle out len).run m = ((code, out', after), m') ∧
      m'.trace = m.trace ++ new ∧
      Retrieved handle m out len (View.systemCalls.calls new) code out' := by
  have hnothing : m.trace = m.trace ++ [] := (List.append_nil _).symm
  cases handle with
  | none =>
      rw [Handle.retrieve_of_null (.inl rfl)]
      exact ⟨_, out, none, [], m, rfl, hnothing, .null (.inl rfl)⟩
  | some b =>
      cases out with
      | none =>
          rw [Handle.retrieve_of_null (.inr rfl)]
          exact ⟨_, none, some b, [], m, rfl, hnothing, .null (.inr rfl)⟩
      | some bytes =>
          by_cases hlen : len = 0
          · subst hlen
            rw [Handle.retrieve_zero]
            exact ⟨_, some bytes, some b, [], m, rfl, hnothing, .empty rfl rfl rfl⟩
          · obtain ⟨front, o, new, m', hrun, hnew, hfront⟩ :=
              readInto_disclosed .system 0 (hheld b rfl) (bytes.take len.toNat)
            exact ⟨_, _, _, new, m', Handle.run_retrieve hlen hrun, hnew,
              .reading rfl rfl hlen hfront⟩

/-! ## §3. After any steps. -/

/-- **What every read leaves with its caller.**  After any steps, a read from the buffer in any
slot over any bytes gives them back in one of the ways of `Disclosed`, and a retrieval through
any handle over any output does so with the first `len` bytes of it, or is refused because of a
NULL or of a length of zero; the bytes beyond them are as they were.  If it fails, what comes back
is what was handed over, or zeros. -/
theorem outputs_of_reads :
    (∀ (σ : Scenario) (k : Nat) (b : SealedBuffer), σ.slots.get? k = some b →
      ∀ (page : UInt64) (out : Bytes), ∃ out' o new m',
        (b.readInto (σ.kind.platform page) out).run σ.machine = ((out', o), m') ∧
        m'.trace = σ.machine.trace ++ new ∧
        Disclosed σ.view b σ.machine out (σ.view.calls new) o.result out' ∧
        (o.result = .ok () ∨ out' = out ∨ out' = Bytes.zeros out.length)) ∧
    (∀ (steps : List HandleScript.Step) (passed : HandleScript.Passed) (out : Option Bytes)
      (len : UInt64), ∃ code out' after new m',
        (Handle.retrieve (HandleScript.lookUp (HandleScript.sceneAfter steps).session passed)
          out len).run (HandleScript.sceneAfter steps).machine = ((code, out', after), m') ∧
        m'.trace = (HandleScript.sceneAfter steps).machine.trace ++ new ∧
        Retrieved (HandleScript.lookUp (HandleScript.sceneAfter steps).session passed)
          (HandleScript.sceneAfter steps).machine out len (View.systemCalls.calls new) code out' ∧
        out'.map (·.drop len.toNat) = out.map (·.drop len.toNat) ∧
        (code = successCode ∨ out' = out ∨ ∃ bytes, out = some bytes ∧
          out' = some (Bytes.zeros (bytes.take len.toNat).length ++ bytes.drop len.toNat))) := by
  constructor
  · intro σ k b hk page out
    obtain ⟨out', o, new, m', hrun, hnew, hdisclosed⟩ :=
      readInto_disclosed σ.kind page (Scenario.held_of_slot hk) out
    rw [σ.view_kind] at hdisclosed
    exact ⟨out', o, new, m', hrun, hnew, hdisclosed, hdisclosed.ok_or_nothing⟩
  · intro steps passed out len
    have hheld : ∀ b, HandleScript.lookUp (HandleScript.sceneAfter steps).session passed = some b →
        ∀ h, b.holding = some h →
          ((HandleScript.sceneAfter steps).machine.story h.region).Held .systemCalls h := by
      intro b hb
      obtain ⟨k, -, hk⟩ := HandleScript.exists_of_lookUp hb
      exact Scenario.held_of_slot (σ := .handles steps) hk
    obtain ⟨code, out', after, new, m', hrun, hnew, hretrieved⟩ := retrieve_retrieved hheld out len
    exact ⟨code, out', after, new, m', hrun, hnew, hretrieved, hretrieved.beyond_eq,
      hretrieved.ok_or_nothing⟩

/-- A buffer with a secret in it, whose pages will open once more and not close. -/
def secretBehindPages : Scenario :=
  .buffers .custom 8
    [⟨0, .create 5⟩, ⟨0, .use (.write [7, 8])⟩, ⟨0, .fault .protect [2]⟩]

/-- A read from it takes the secret back, and the bytes of the caller with it. -/
theorem output_of_secretBehindPages :
    secretBehindPages.slots.get? 0 = some ⟨some ⟨1, 5, 8, 8, .noAccess⟩⟩ ∧
      ∃ calls m', ((⟨some ⟨1, 5, 8, 8, .noAccess⟩⟩ : SealedBuffer).readInto
          (secretBehindPages.kind.platform 8) [255, 255, 255]).run secretBehindPages.machine =
            (([0, 0, 0], ⟨.error .protectFailed, .destroyed⟩), m') ∧
        Disclosed .serviceCalls ⟨some ⟨1, 5, 8, 8, .noAccess⟩⟩ secretBehindPages.machine
          [255, 255, 255] calls (.error .protectFailed) [0, 0, 0] := by
  refine ⟨rfl, ?_⟩
  obtain ⟨out', o, new, m', hrun, -, hdisclosed, -⟩ :=
    outputs_of_reads.1 secretBehindPages 0 _ rfl 8 [255, 255, 255]
  have hvalue : (out', o) = ([0, 0, 0], ⟨.error .protectFailed, .destroyed⟩) :=
    (Prod.mk.inj hrun).1.symm
  cases hvalue
  exact ⟨_, m', hrun, hdisclosed⟩

end SealedPages
