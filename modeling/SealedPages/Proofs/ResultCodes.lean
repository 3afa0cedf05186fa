/-
  SealedPages.Proofs.ResultCodes
  ──────────────────────────────
  **CODES AND WHAT THEY TELL.**  Errors stand in five tables: the code of an error, the error of
  a code, its description, the text that is printed for it, and the text that the C interface
  has for its code.  Each is a table of its own, and all of them agree, over all 32-bit codes.
  So the code that a store or a retrieval returns tells its result, and nothing of it is lost.

  Main statements:
    * `BufferError.ofCode?_eq_none_iff`, `describeCode_of_ofCode?` — the tables with each other;
    * `Handle.tells_resultCode` — a code tells one result;
    * `Handle.store_tells`, `Handle.retrieve_tells` — the calls that return codes;
    * `code_tables_agree` — the tables, and all such calls of all scripts.
-/
import SealedPages.Proofs.StepRuns

namespace SealedPages

/-! ## §1. The tables. -/

/-- A code has no error where it is the code of none. -/
theorem BufferError.ofCode?_eq_none_iff {c : Int32} :
    ofCode? c = none ↔ ∀ e : BufferError, e.code ≠ c := by
  rw [Option.eq_none_iff_forall_ne_some]
  exact forall_congr' fun e => not_congr ofCode?_eq_some_iff

/-- Success is no error. -/
theorem BufferError.ofCode?_success : ofCode? successCode = none :=
  ofCode?_eq_none_iff.2 code_ne_success

/-- **The code of an error is described as the error is.** -/
theorem describeCode_of_ofCode? {c : Int32} {e : BufferError} (h : BufferError.ofCode? c = some e) :
    describeCode c = e.message := by
  have hc : c ≠ successCode := BufferError.ofCode?_eq_some_iff.1 h ▸ e.code_ne_success
  rw [describeCode, if_neg hc, h]

/-- Every code is described by some words. -/
theorem describeCode_ne_empty (c : Int32) : describeCode c ≠ "" := by
  unfold describeCode
  split
  · decide
  · cases BufferError.ofCode? c with
    | none => decide
    | some e => exact e.message_ne_empty

/-! ## §2. Codes of results. -/

namespace Handle

/-- **A code tells a result**: it is the code of this result and of no other one.  Zero tells of
success; for an error, the error is found under the code, and its text is the text of the code. -/
structure Tells (c : Int32) (result : Except BufferError Unit) : Prop where
  code_eq : c = resultCode result
  only : ∀ other : Except BufferError Unit, resultCode other = c → other = result
  success_iff : c = 0 ↔ result = .ok ()
  error_iff : ∀ e, BufferError.ofCode? c = some e ↔ result = .error e
  text : ∀ e, result = .error e → codeText c = e.message

/-- No two results have one code. -/
theorem resultCode_injective {r r' : Except BufferError Unit} (h : resultCode r = resultCode r') :
    r = r' := by
  cases r with
  | ok _ =>
      cases r' with
      | ok _ => rfl
      | error e => exact absurd h.symm e.code_ne_success
  | error e =>
      cases r' with
      | ok _ => exact absurd h e.code_ne_success
      | error e' => rw [BufferError.code_injective h]

/-- An error is found under the code of a result where the result is that error. -/
theorem ofCode?_resultCode (r : Except BufferError Unit) (e : BufferError) :
    BufferError.ofCode? (resultCode r) = some e ↔ r = .error e := by
  cases r with
  | ok _ =>
      have hnone : BufferError.ofCode? (resultCode (.ok () : Except BufferError Unit)) = none :=
        BufferError.ofCode?_success
      simp [hnone]
  | error e' =>
      have hsome :
          BufferError.ofCode? (resultCode (.error e' : Except BufferError Unit)) = some e' :=
        e'.ofCode?_code
      simp [hsome]

/-- **The code of a result tells it.** -/
theorem tells_resultCode (r : Except BufferError Unit) : Tells (resultCode r) r where
  code_eq := rfl
  only _ h := resultCode_injective h
  success_iff := by
    have hzero : resultCode (.ok () : Except BufferError Unit) = 0 := rfl
    constructor
    · intro h
      exact resultCode_injective (h.trans hzero.symm)
    · rintro rfl
      exact hzero
  error_iff := ofCode?_resultCode r
  text e he := by
    rw [codeText_eq_describeCode]
    exact describeCode_of_ofCode? ((ofCode?_resultCode r e).2 he)

/-! ## §3. Calls that return codes. -/

/-- **How a call is answered** to which a handle, a pointer and a length are passed: at once, or
by what is `asked` of the buffer and the bytes that are meant. -/
inductive Answered (handle : Handle) (pointer : Option Bytes) (len : UInt64)
    (asked : SealedBuffer → Bytes → Except BufferError Unit) : Except BufferError Unit → Prop
  /-- The handle or the pointer is NULL. -/
  | null (hnull : handle = none ∨ pointer = none) :
      Answered handle pointer len asked (.error .nullPointer)
  /-- The length is zero. -/
  | empty {b : SealedBuffer} {bytes : Bytes} (hhandle : handle = some b)
      (hpointer : pointer = some bytes) (hlen : len = 0) :
      Answered handle pointer len asked (.error .invalidSize)
  /-- The buffer is asked, for the first `len` bytes. -/
  | asked {b : SealedBuffer} {bytes : Bytes} (hhandle : handle = some b)
      (hpointer : pointer = some bytes) (hlen : len ≠ 0) :
      Answered handle pointer len asked (asked b (bytes.take len.toNat))

/-- A call that answers in each of these ways with the code of the answer tells its result. -/
theorem exists_tells {handle : Handle} {pointer : Option Bytes} {len : UInt64}
    {asked : SealedBuffer → Bytes → Except BufferError Unit} {c : Int32}
    (hnull : handle = none ∨ pointer = none → c = BufferError.nullPointer.code)
    (hempty : ∀ b bytes, handle = some b → pointer = some bytes → len = 0 →
      c = BufferError.invalidSize.code)
    (hasked : ∀ b bytes, handle = some b → pointer = some bytes → len ≠ 0 →
      c = resultCode (asked b (bytes.take len.toNat))) :
    ∃ result, Tells c result ∧ Answered handle pointer len asked result := by
  cases handle with
  | none =>
      rw [hnull (Or.inl rfl)]
      exact ⟨_, tells_resultCode (.error .nullPointer), .null (Or.inl rfl)⟩
  | some b =>
      cases pointer with
      | none =>
          rw [hnull (Or.inr rfl)]
          exact ⟨_, tells_resultCode (.error .nullPointer), .null (Or.inr rfl)⟩
      | some bytes =>
          by_cases hlen : len = 0
          · rw [hempty b bytes rfl rfl hlen]
            exact ⟨_, tells_resultCode (.error .invalidSize), .empty rfl rfl hlen⟩
          · rw [hasked b bytes rfl rfl hlen]
            exact ⟨_, tells_resultCode _, .asked rfl rfl hlen⟩

variable (handle : Handle) (pointer : Option Bytes) (len : UInt64) (m : Machine)

/-- **The code of a store tells the result of the write** that it comes to. -/
theorem store_tells :
    ∃ result, Tells ((store handle pointer len).run m).1.1 result ∧
      Answered handle pointer len
        (fun b bytes => ((b.write .system bytes).run m).1.result) result := by
  apply exists_tells
  · intro hnull
    rw [store_of_null hnull, run_pure]
  · rintro b bytes rfl rfl rfl
    rw [store_zero, run_pure]
  · rintro b bytes rfl rfl hlen
    exact congrArg (fun x => x.1.1) (run_store hlen rfl)

/-- **The code of a retrieval tells the result of the read** that it comes to. -/
theorem retrieve_tells :
    ∃ result, Tells ((retrieve handle pointer len).run m).1.1 result ∧
      Answered handle pointer len
        (fun b bytes => ((b.readInto .system bytes).run m).1.2.result) result := by
  apply exists_tells
  · intro hnull
    rw [retrieve_of_null hnull, run_pure]
  · rintro b bytes rfl rfl rfl
    rw [retrieve_zero, run_pure]
  · rintro b bytes rfl rfl hlen
    exact congrArg (fun x => x.1.1) (run_retrieve hlen rfl)

end Handle

/-! ## §4. All of it, in all scripts. -/

namespace HandleScript

/-- The reply of a step after others. -/
def nextReply (steps : List Step) (x : Step) : Reply :=
  (Script.playStep perform (sceneAfter steps) x).1.reply.reply

/-- What a step passes as a handle, after others. -/
def passedAfter (steps : List Step) (passed : Passed) : Handle :=
  lookUp (sceneAfter steps).session passed

theorem nextReply_store (steps : List Step) (passed : Passed) (data : Option Bytes) (len : UInt64) :
    nextReply steps (.store passed data len) =
      .code ((Handle.store (passedAfter steps passed) data len).run
        (sceneAfter steps).machine).1.1 := by
  rcases h : (Handle.store (passedAfter steps passed) data len).run (sceneAfter steps).machine with
    ⟨⟨code, after⟩, m'⟩
  rw [nextReply, Script.playStep_of_run (store_run h)]

theorem nextReply_retrieve (steps : List Step) (passed : Passed) (len : UInt64) (room : Option Nat)
    (fill : UInt8) :
    nextReply steps (.retrieve passed len room fill) =
      .code ((Handle.retrieve (passedAfter steps passed) (room.map (List.replicate · fill)) len).run
        (sceneAfter steps).machine).1.1 := by
  rcases h : (Handle.retrieve (passedAfter steps passed) (room.map (List.replicate · fill)) len).run
    (sceneAfter steps).machine with ⟨⟨code, out, after⟩, m'⟩
  rw [nextReply, Script.playStep_of_run (retrieve_run h)]

end HandleScript

open HandleScript in
/-- **The tables of codes agree.**  Over all 32-bit codes the C interface has the text that the
errors have, and it is not empty; looking a code up finds the error that has it, so no two errors
share one, and success and unknown codes find none; and what is found is described and printed
by that text.  So, after any steps, the code of a store or of a retrieval tells the result that
it stands for, which is that of the buffer where the buffer is asked. -/
theorem code_tables_agree :
    (∀ c, Handle.codeText c = describeCode c ∧ describeCode c ≠ "") ∧
    (∀ c e, BufferError.ofCode? c = some e ↔ e.code = c) ∧
    Function.Injective BufferError.code ∧
    BufferError.ofCode? 0 = none ∧
    (∀ c, BufferError.ofCode? c = none ↔ ∀ e : BufferError, e.code ≠ c) ∧
    (∀ c e, BufferError.ofCode? c = some e →
      describeCode c = e.message ∧ toString e = describeCode c) ∧
    (∀ steps passed data len, ∃ c result,
      nextReply steps (.store passed data len) = .code c ∧ Handle.Tells c result ∧
      Handle.Answered (passedAfter steps passed) data len
        (fun b bytes => ((b.write .system bytes).run (sceneAfter steps).machine).1.result) result) ∧
    ∀ steps passed len room fill, ∃ c result,
      nextReply steps (.retrieve passed len room fill) = .code c ∧ Handle.Tells c result ∧
      Handle.Answered (passedAfter steps passed) (room.map (List.replicate · fill)) len
        (fun b bytes => ((b.readInto .system bytes).run (sceneAfter steps).machine).1.2.result)
        result := by
  refine ⟨fun c => ⟨Handle.codeText_eq_describeCode c, describeCode_ne_empty c⟩,
    fun _ _ => BufferError.ofCode?_eq_some_iff, fun _ _ => BufferError.code_injective,
    BufferError.ofCode?_success, fun _ => BufferError.ofCode?_eq_none_iff, ?_, ?_, ?_⟩
  · intro c e h
    have hmessage := describeCode_of_ofCode? h
    exact ⟨hmessage, e.printed_eq_message.trans hmessage.symm⟩
  · intro steps passed data len
    obtain ⟨result, htells, hanswered⟩ :=
      Handle.store_tells (passedAfter steps passed) data len (sceneAfter steps).machine
    exact ⟨_, result, nextReply_store steps passed data len, htells, hanswered⟩
  · intro steps passed len room fill
    obtain ⟨result, htells, hanswered⟩ :=
      Handle.retrieve_tells (passedAfter steps passed) (room.map (List.replicate · fill)) len
        (sceneAfter steps).machine
    exact ⟨_, result, nextReply_retrieve steps passed len room fill, htells, hanswered⟩

/-- A buffer of four bytes, of which five are asked for. -/
theorem text_of_too_long_a_retrieval :
    BufferError.ofCode? (-5) = some .invalidSize ∧ describeCode (-5) = "Invalid size parameter" ∧
    ∃ c, HandleScript.nextReply [.create 0 4] (.retrieve (some 0) 5 (some 5) 0) = .code c ∧
      BufferError.ofCode? c = some .invalidSize ∧ Handle.codeText c = "Invalid size parameter" := by
  obtain ⟨-, -, -, -, -, htext, -, hretrieve⟩ := code_tables_agree
  refine ⟨rfl, (htext (-5) .invalidSize rfl).1, ?_⟩
  obtain ⟨c, result, hreply, htells, hanswered⟩ := hretrieve [.create 0 4] (some 0) 5 (some 5) 0
  have hpassed : HandleScript.passedAfter [.create 0 4] (some 0) =
      some ⟨some ⟨1, 4, 4096, 4096, .noAccess⟩⟩ := rfl
  have hresult : result = .error .invalidSize := by
    rw [hpassed] at hanswered
    cases hanswered with
    | null hnull => simp at hnull
    | empty _ _ hlen => cases hlen
    | asked hhandle hpointer _ =>
        cases hhandle
        cases hpointer
        rfl
  exact ⟨c, hreply, (htells.error_iff _).2 hresult, htells.text _ hresult⟩

end SealedPages
