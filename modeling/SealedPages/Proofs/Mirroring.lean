/-
  SealedPages.Proofs.Mirroring
  ────────────────────────────
  **THE C INTERFACE DOES WHAT THE BUFFERS DO.**  Behind every script of handles there is a
  script of buffers on the pages of the operating system: a call with a buffer to work on and
  bytes to copy is that operation of the buffer, a creation that fails is followed by letting
  go of what the variable held, and every other call is no operation at all.  Played side by
  side, the two scripts stay level: the same buffers stand under the same numbers, in the same
  memory, with the same faults to come.

  Main statements:
    * `step_mirrored` — a step of handles and the steps of buffers behind it;
    * `level_play`, `finish_mirrored` — whole scripts, and their ends;
    * `mirrored_by_buffers` — the C interface simulates the operations of buffers.
-/
import SealedPages.Proofs.Blindness
import SealedPages.Proofs.Contents
import SealedPages.Proofs.Scenario
import SealedPages.Proofs.StepRuns

namespace SealedPages

namespace HandleScript

/-! ## §1. The script behind a script. -/

/-- A use of the buffer behind what is passed.  Behind NULL there is none. -/
def useBehind (vars : Variables) (passed : Passed) (u : BufferScript.Use) :
    List BufferScript.Step :=
  match passed with
  | some k => if (vars.get? k).isSome then [⟨k, .use u⟩] else []
  | none   => []

theorem useBehind_of_held {vars : Variables} {k : Nat} {held : SealedBuffer}
    (h : vars.get? k = some held) (u : BufferScript.Use) :
    useBehind vars (some k) u = [⟨k, .use u⟩] := by
  simp [useBehind, h]

theorem useBehind_of_null {vars : Variables} {passed : Passed} (h : lookUp vars passed = none)
    (u : BufferScript.Use) : useBehind vars passed u = [] := by
  cases passed with
  | none => rfl
  | some k =>
      have hget : vars.get? k = none := h
      simp [useBehind, hget]

/-- **The steps of buffers behind a step of handles** that gives the reply. -/
def Step.onBuffers (vars : Variables) (reply : Reply) : Step → List BufferScript.Step
  | .create slot size =>
      match reply with
      | .handle false => [⟨slot, .create size⟩, ⟨slot, .use .letGo⟩]
      | _             => [⟨slot, .create size⟩]
  | .store passed (some data) len =>
      if len = 0 then [] else useBehind vars passed (.write (data.take len.toNat))
  | .retrieve passed len (some room) fill =>
      if len = 0 then [] else useBehind vars passed (.readInto (min len.toNat room) fill)
  | .getSize passed => useBehind vars passed .info
  | .destroy passed => useBehind vars passed .letGo
  | .clear passed   => useBehind vars passed .letGo
  | .fault target places   => [⟨0, .fault target places⟩]
  | .peek region first len => [⟨0, .peek region first len⟩]
  | _ => []

/-- The script of buffers behind a script of handles. -/
def behind (scene : Script.Scene Variables) : List Step → List BufferScript.Step
  | [] => []
  | step :: rest =>
      let played := Script.playStep perform scene step
      step.onBuffers scene.session played.1.reply.reply ++ behind played.2 rest

theorem behind_append (scene : Script.Scene Variables) (xs ys : List Step) :
    behind scene (xs ++ ys) = behind scene xs ++ behind (Script.play perform scene xs).2 ys := by
  induction xs generalizing scene with
  | nil => rfl
  | cons x xs ih => simp [behind, Script.play, ih]

/-! ## §2. What the answers have to do with each other. -/

/-- The code for the reply to an operation of a buffer. -/
inductive Coded : Int32 → BufferScript.Reply → Prop
  | success : Coded successCode .done
  | refusal (e : BufferError) : Coded e.code (.failed (.refused e))

theorem Coded.of_result (r : Except BufferError Unit) :
    Coded (Handle.resultCode r) (.ofResult r) := by
  cases r with
  | ok _ => exact .success
  | error e => exact .refusal e

/-- **The answer of a step that is one operation of a buffer**, by the answer to that. -/
inductive Answered (vars : Variables) : Step → Answer → BufferScript.Answer → Prop
  | created {slot : Nat} {size : UInt64} {b : BufferScript.Answer} (made : b.reply = .done) :
      Answered vars (.create slot size) ⟨.handle true, none⟩ b
  | stored {k : Nat} {held : SealedBuffer} {data : Bytes} {len : UInt64} {code : Int32}
      {b : BufferScript.Answer} (found : vars.get? k = some held) (positive : len ≠ 0)
      (coded : Coded code b.reply) :
      Answered vars (.store (some k) (some data) len) ⟨.code code, none⟩ b
  /-- Behind the bytes that are passed on, the output is what it was. -/
  | retrieved {k room : Nat} {held : SealedBuffer} {len : UInt64} {fill : UInt8} {code : Int32}
      {front : Bytes} {b : BufferScript.Answer} (found : vars.get? k = some held)
      (positive : len ≠ 0) (coded : Coded code b.reply) (copied : b.out = some front)
      (length : front.length = min len.toNat room) :
      Answered vars (.retrieve (some k) len (some room) fill)
        ⟨.code code, some (front ++ List.replicate (room - len.toNat) fill)⟩ b
  | measured {k : Nat} {held : SealedBuffer} {status : SealedBuffer.Status}
      {b : BufferScript.Answer} (found : vars.get? k = some held) (shown : b.status = some status) :
      Answered vars (.getSize (some k)) ⟨.size status.len, none⟩ b
  | destroyed {k : Nat} {held : SealedBuffer} {b : BufferScript.Answer}
      (found : vars.get? k = some held) (gone : b.status = none) :
      Answered vars (.destroy (some k)) ⟨.silent, none⟩ b
  | cleared {k : Nat} {held : SealedBuffer} {b : BufferScript.Answer}
      (found : vars.get? k = some held) (gone : b.status = none) :
      Answered vars (.clear (some k)) ⟨.handle false, none⟩ b
  | scheduled {target : Target} {places : List Nat} {b : BufferScript.Answer} :
      Answered vars (.fault target places) ⟨.silent, none⟩ b
  | peeked {region : RegionId} {first len : Nat} {seen : Memory.Sight} {b : BufferScript.Answer}
      (same : b.reply = .sight seen) :
      Answered vars (.peek region first len) ⟨.sight seen, none⟩ b

/-- **The answer of a step with no operation of a buffer behind it.**  A NULL is looked at
before the length. -/
inductive Idle (vars : Variables) : Step → Answer → Prop
  | storeNull {passed : Passed} {data : Option Bytes} {len : UInt64}
      (null : lookUp vars passed = none ∨ data = none) :
      Idle vars (.store passed data len) ⟨.code BufferError.nullPointer.code, none⟩
  | storeNothing {passed : Passed} {held : SealedBuffer} {data : Bytes}
      (found : lookUp vars passed = some held) :
      Idle vars (.store passed (some data) 0) ⟨.code BufferError.invalidSize.code, none⟩
  | retrieveNull {passed : Passed} {len : UInt64} {room : Option Nat} {fill : UInt8}
      (null : lookUp vars passed = none ∨ room = none) :
      Idle vars (.retrieve passed len room fill)
        ⟨.code BufferError.nullPointer.code, some ((room.map (List.replicate · fill)).getD [])⟩
  | retrieveNothing {passed : Passed} {held : SealedBuffer} {room : Nat} {fill : UInt8}
      (found : lookUp vars passed = some held) :
      Idle vars (.retrieve passed 0 (some room) fill)
        ⟨.code BufferError.invalidSize.code, some (List.replicate room fill)⟩
  | sizeNull {passed : Passed} (null : lookUp vars passed = none) :
      Idle vars (.getSize passed) ⟨.size 0, none⟩
  | destroyNull {passed : Passed} (null : lookUp vars passed = none) :
      Idle vars (.destroy passed) ⟨.silent, none⟩
  | clearNull {k : Nat} (null : vars.get? k = none) :
      Idle vars (.clear (some k)) ⟨.handle false, none⟩
  | clearNothing : Idle vars (.clear none) ⟨.silent, none⟩
  | version : Idle vars .version ⟨.text SealedPages.version, none⟩
  | codeText {code : Int32} : Idle vars (.codeText code) ⟨.text (Handle.codeText code), none⟩

/-- **The report of a step of handles, by the reports of the steps of buffers behind it.** -/
inductive Mirrors (vars : Variables) :
    Step → Report Answer → List (Report BufferScript.Answer) → Prop
  | single {step : Step} {a : Answer} {b : Report BufferScript.Answer}
      (answered : Answered vars step a b.reply) : Mirrors vars step ⟨a, b.trace, b.log⟩ [b]
  /-- A creation that fails writes one line more, and then the variable is emptied. -/
  | refused {slot : Nat} {size : UInt64} {e : BufferError} {b d : Report BufferScript.Answer}
      (failed : b.reply.reply = .failed (.refused e)) (gone : d.reply.status = none) :
      Mirrors vars (.create slot size)
        ⟨⟨.handle false, none⟩, b.trace ++ d.trace, b.log ++ [.handleRefused size e] ++ d.log⟩
        [b, d]
  | idle {step : Step} {a : Answer} (h : Idle vars step a) : Mirrors vars step ⟨a, [], []⟩ []

/-- **Scenes with the same buffers under the same numbers**, in the same memory and with the
same faults to come. -/
structure Level (c : Script.Scene Variables) (b : Script.Scene BufferScript.Session) : Prop where
  slots : b.session.slots = c.session
  state : c.machine.SameState b.machine

/-- **A step of handles and the steps of buffers behind it**, from scenes that are level. -/
structure Mirrored (c : Script.Scene Variables) (b : Script.Scene BufferScript.Session)
    (step : Step) (calls : List BufferScript.Step) : Prop where
  reports : Mirrors c.session step (Script.playStep perform c step).1
    (Script.play (BufferScript.perform .system) b calls).1
  level : Level (Script.playStep perform c step).2
    (Script.play (BufferScript.perform .system) b calls).2
  /-- Where there is no operation, nothing changes. -/
  unchanged : calls = [] → (Script.playStep perform c step).2 = c

/-! ## §3. From runs to reports. -/

section Runs

variable {c : Script.Scene Variables} {b : Script.Scene BufferScript.Session} {step : Step}
  {a : Answer} {after : Variables} {m' : Machine}

/-- The reply of a step decides which steps of buffers are behind it. -/
theorem reply_of_run (hc : (perform c.session step).run c.machine = ((a, after), m')) :
    (Script.playStep perform c step).1.reply.reply = a.reply := by
  rw [Script.playStep_of_run hc]

/-- **A step that is one operation of a buffer.** -/
theorem Mirrored.of_runs {call : BufferScript.Step} {a' : BufferScript.Answer}
    {s' : BufferScript.Session} {n' : Machine}
    (hc : (perform c.session step).run c.machine = ((a, after), m'))
    (hb : (BufferScript.perform .system b.session call).run b.machine = ((a', s'), n'))
    (hin : InStep c.machine b.machine m' n') (hslots : s'.slots = after)
    (hanswer : Answered c.session step a a') : Mirrored c b step [call] := by
  obtain ⟨htrace, hlog⟩ := hin.drop_eq
  have hplayed := Script.playStep_of_run hc
  have hcalled := Script.playStep_of_run hb
  refine ⟨?_, ?_, by simp⟩
  · simp only [Script.play, hplayed, hcalled, htrace, hlog]
    exact .single (b := ⟨a', _, _⟩) hanswer
  · simp only [Script.play, hplayed, hcalled]
    exact ⟨hslots, hin.toSameState⟩

/-- **A step with nothing behind it.** -/
theorem Mirrored.of_idle (hlevel : Level c b)
    (hc : (perform c.session step).run c.machine = ((a, c.session), c.machine))
    (hidle : Idle c.session step a) : Mirrored c b step [] := by
  have hplayed := Script.playStep_of_unmoved hc
  refine ⟨?_, ?_, fun _ => ?_⟩
  · rw [hplayed]
    exact .idle hidle
  · rw [hplayed]
    exact hlevel
  · rw [hplayed]

end Runs

/-! ## §4. Every step is mirrored. -/

section Mirroring

variable {c : Script.Scene Variables} {b : Script.Scene BufferScript.Session}

/-- **A creation that is refused** is a creation of a buffer that fails, and letting go of what
was there.  The line that is written in between cannot be told. -/
theorem refused_mirrored (hlevel : Level c b) {slot : Nat} {size : UInt64} {e : BufferError}
    {m₁ n₁ : Machine}
    (hm₁ : StateT.run (SealedBuffer.create .system size).run c.machine =
      (.error (.refused e), m₁))
    (hn₁ : StateT.run (SealedBuffer.create .system size).run b.machine =
      (.error (.refused e), n₁))
    (hin₁ : InStep c.machine b.machine m₁ n₁) :
    Mirrored c b (.create slot size) [⟨slot, .create size⟩, ⟨slot, .use .letGo⟩] := by
  have hc := create_run_of_refused c.session slot hm₁
  have hb := BufferScript.create_run_of_error .system b.session slot hn₁
  obtain ⟨s', hd, hslots⟩ := BufferScript.letGo_run b.session slot n₁
  have hstate : ({ m₁ with log := m₁.log ++ [.handleRefused size e] } : Machine).SameState n₁ :=
    ⟨hin₁.memory, hin₁.faults⟩
  obtain ⟨_, m₂, n₂, hm₂, hn₂, hin₂⟩ := (Blind.destroy (c.session.get? slot)).run hstate
  rw [hm₂] at hc
  rw [hlevel.slots, hn₂] at hd
  rw [hlevel.slots] at hslots
  obtain ⟨htrace, hlog⟩ := hin₁.drop_eq_of_noted hin₂
  have hplayed := Script.playStep_of_run hc
  have hcreated := Script.playStep_of_run hb
  have hgone : Script.playStep (BufferScript.perform .system) ⟨b.session, n₁⟩
      ⟨slot, .use .letGo⟩ = _ := Script.playStep_of_run hd
  refine ⟨?_, ?_, by simp⟩
  · simp only [Script.play, hplayed, hcreated, hgone, htrace, hlog]
    exact .refused (b := ⟨⟨.failed (.refused e), _, _⟩, _, _⟩) (d := ⟨⟨_, _, none⟩, _, _⟩) rfl rfl
  · simp only [Script.play, hplayed, hcreated, hgone]
    exact ⟨hslots, hin₂.toSameState⟩

theorem create_mirrored (hlevel : Level c b)
    (hcustody : Custody .systemCalls (Slots.holdings c.session) c.machine) (slot : Nat)
    (size : UInt64) :
    Mirrored c b (.create slot size) ((Step.create slot size).onBuffers c.session
      (Script.playStep perform c (.create slot size)).1.reply.reply) := by
  obtain ⟨r, m₁, n₁, hm₁, hn₁, hin₁⟩ := (Blind.create size).run hlevel.state
  cases r with
  | ok made =>
      -- the buffer that was there is let go of, by the one as by the other
      have hc := create_run_of_ok c.session slot hm₁
      have hb := BufferScript.create_run_of_ok b.session slot hn₁
      obtain ⟨_, m₂, n₂, hm₂, hn₂, hin₂⟩ :=
        (Blind.destroy (c.session.get? slot)).run hin₁.toSameState
      rw [hlevel.slots, hn₂] at hb
      rw [hm₂] at hc
      rw [reply_of_run hc]
      exact .of_runs hc hb (hin₁.trans hin₂) rfl (.created rfl)
  | error f =>
      cases f with
      | refused e =>
          rw [reply_of_run (create_run_of_refused c.session slot hm₁)]
          exact refused_mirrored hlevel hm₁ hn₁ hin₁
      | trapped t =>
          have hsound := SealedBuffer.create_not_trapped Platform.serves_system rfl hcustody size t
          exact absurd (congrArg Prod.fst hm₁) hsound

/-! ### Storing and retrieving. -/

theorem store_mirrored (hlevel : Level c b) (passed : Passed) (data : Option Bytes) (len : UInt64)
    (reply : Reply) :
    Mirrored c b (.store passed data len)
      ((Step.store passed data len).onBuffers c.session reply) := by
  by_cases hnull : lookUp c.session passed = none ∨ data = none
  · have hcalls : (Step.store passed data len).onBuffers c.session reply = [] := by
      rcases hnull with hlook | rfl
      · cases data <;> simp [Step.onBuffers, useBehind_of_null hlook]
      · rfl
    rw [hcalls]
    exact .of_idle hlevel (store_run_of_pure _ (Handle.store_of_null hnull)) (.storeNull hnull)
  obtain ⟨hlook, hdata⟩ := not_or.1 hnull
  obtain ⟨held, hheld⟩ := Option.ne_none_iff_exists'.1 hlook
  obtain ⟨bytes, rfl⟩ := Option.ne_none_iff_exists'.1 hdata
  by_cases hlen : len = 0
  · subst hlen
    have hzero : Handle.store (some held) (some bytes) 0 = _ := Handle.store_zero
    rw [← hheld] at hzero
    exact .of_idle hlevel (store_run_of_pure _ hzero) (.storeNothing hheld)
  obtain ⟨k, rfl, hget⟩ := exists_of_lookUp hheld
  have hget' : b.session.slots.get? k = some held := by
    rw [hlevel.slots, hget]
  have hcalls : (Step.store (some k) (some bytes) len).onBuffers c.session reply =
      [⟨k, .use (.write (bytes.take len.toNat))⟩] := by
    rw [← useBehind_of_held hget]
    exact if_neg hlen
  obtain ⟨o, m', n', hm, hn, hin⟩ := (Blind.write held (bytes.take len.toNat)).run hlevel.state
  have hstore := Handle.run_store hlen hm
  rw [← hheld] at hstore
  have huse : (BufferScript.use .system held (.write (bytes.take len.toNat))).run b.machine =
      ((.ofResult o.result, none, some o.buffer), n') := run_bind_of_eq hn
  rw [hcalls]
  refine .of_runs (store_run hstore) (BufferScript.use_run hget' huse) hin ?_
    (.stored hget hlen (.of_result _))
  show b.session.slots.set k (some o.buffer) = c.session.set k (some o.buffer)
  rw [hlevel.slots]

/-- A read leaves as many bytes as there were. -/
theorem length_front {vars : Variables} {m : Machine} {k : Nat} {held : SealedBuffer}
    (hcustody : Custody .systemCalls (Slots.holdings vars) m) (hget : vars.get? k = some held)
    (out : Bytes) : ((held.readInto .system out).run m).1.1.length = out.length := by
  obtain ⟨holding⟩ := held
  cases holding with
  | none => rfl
  | some h =>
      have hheld := hcustody.held_of_get? hget h rfl
      obtain ⟨r, hr, hrest⟩ := hheld.region
      refine SealedBuffer.length_readInto .system Kernel.pageSize m hheld.mode hr ?_ out
      rw [hrest.length]
      exact UInt64.le_iff_toNat_le.1 (le_of_roundUp hheld.rounded.2)

theorem retrieve_mirrored (hlevel : Level c b)
    (hcustody : Custody .systemCalls (Slots.holdings c.session) c.machine) (passed : Passed)
    (len : UInt64) (room : Option Nat) (fill : UInt8) (reply : Reply) :
    Mirrored c b (.retrieve passed len room fill)
      ((Step.retrieve passed len room fill).onBuffers c.session reply) := by
  by_cases hnull : lookUp c.session passed = none ∨ room = none
  · have hcalls : (Step.retrieve passed len room fill).onBuffers c.session reply = [] := by
      rcases hnull with hlook | rfl
      · cases room <;> simp [Step.onBuffers, useBehind_of_null hlook]
      · rfl
    have hout : lookUp c.session passed = none ∨ room.map (List.replicate · fill) = none :=
      hnull.imp_right fun h => by rw [h, Option.map_none]
    rw [hcalls]
    exact .of_idle hlevel (retrieve_run_of_pure _ (Handle.retrieve_of_null hout)) (.retrieveNull hnull)
  obtain ⟨hlook, hroom⟩ := not_or.1 hnull
  obtain ⟨held, hheld⟩ := Option.ne_none_iff_exists'.1 hlook
  obtain ⟨room, rfl⟩ := Option.ne_none_iff_exists'.1 hroom
  by_cases hlen : len = 0
  · subst hlen
    have hzero : Handle.retrieve (some held) (some (List.replicate room fill)) 0 = _ :=
      Handle.retrieve_zero
    rw [← hheld] at hzero
    exact .of_idle hlevel (retrieve_run_of_pure _ hzero) (.retrieveNothing hheld)
  obtain ⟨k, rfl, hget⟩ := exists_of_lookUp hheld
  have hget' : b.session.slots.get? k = some held := by
    rw [hlevel.slots, hget]
  have hcalls : (Step.retrieve (some k) len (some room) fill).onBuffers c.session reply =
      [⟨k, .use (.readInto (min len.toNat room) fill)⟩] := by
    rw [← useBehind_of_held hget]
    exact if_neg hlen
  -- the bytes that are passed on are the first ones of the output
  have hpassed : (List.replicate room fill).take len.toNat =
      List.replicate (min len.toNat room) fill := List.take_replicate
  have hlength := length_front hcustody hget (List.replicate (min len.toNat room) fill)
  obtain ⟨⟨front, o⟩, m', n', hm, hn, hin⟩ :=
    (Blind.readInto held (List.replicate (min len.toNat room) fill)).run hlevel.state
  rw [hm, List.length_replicate] at hlength
  rw [← hpassed] at hm
  have hretrieve := Handle.run_retrieve hlen hm
  rw [← hheld, List.drop_replicate] at hretrieve
  have huse : (BufferScript.use .system held (.readInto (min len.toNat room) fill)).run b.machine =
      ((.ofResult o.result, some front, some o.buffer), n') := run_bind_of_eq hn
  rw [hcalls]
  refine .of_runs (retrieve_run hretrieve) (BufferScript.use_run hget' huse) hin ?_
    (.retrieved hget hlen (.of_result _) rfl hlength)
  show b.session.slots.set k (some o.buffer) = c.session.set k (some o.buffer)
  rw [hlevel.slots]

/-! ### The other calls. -/

theorem getSize_mirrored (hlevel : Level c b) (passed : Passed) (reply : Reply) :
    Mirrored c b (.getSize passed) ((Step.getSize passed).onBuffers c.session reply) := by
  cases hlook : lookUp c.session passed with
  | none =>
      have hcalls : (Step.getSize passed).onBuffers c.session reply = [] :=
        useBehind_of_null hlook .info
      have hrun := getSize_run c.session passed c.machine
      rw [hlook] at hrun
      rw [hcalls]
      exact .of_idle hlevel hrun (.sizeNull hlook)
  | some held =>
      obtain ⟨k, rfl, hget⟩ := exists_of_lookUp hlook
      have hget' : b.session.slots.get? k = some held := by
        rw [hlevel.slots, hget]
      have hcalls : (Step.getSize (some k)).onBuffers c.session reply = [⟨k, .use .info⟩] :=
        useBehind_of_held hget .info
      have hrun := getSize_run c.session (some k) c.machine
      have huse : (BufferScript.use .system held .info).run b.machine =
          ((.silent, none, some held), b.machine) := rfl
      rw [hlook] at hrun
      rw [hcalls]
      have hanswer : Answered c.session (.getSize (some k)) ⟨.size held.status.len, none⟩
          ⟨.silent, none, some held.status⟩ := .measured hget rfl
      refine .of_runs hrun (BufferScript.use_run hget' huse) hlevel.state.inStep ?_ hanswer
      -- the buffer is put back into its place
      have hsame := c.session.set_get?_self k
      rw [hget] at hsame
      show b.session.slots.set k (some held) = c.session
      rw [hlevel.slots, hsame]

/-- The handle in a variable is destroyed, and the variable emptied. -/
theorem emptied_mirrored (hlevel : Level c b) {step : Step} {a : Answer} {k : Nat}
    (hrun : (perform c.session step).run c.machine =
      ((a, c.session.set k none), ((Handle.destroy (c.session.get? k)).run c.machine).2))
    (hanswer : Answered c.session step a ⟨.done, none, none⟩) :
    Mirrored c b step [⟨k, .use .letGo⟩] := by
  obtain ⟨s', hb, hslots⟩ := BufferScript.letGo_run b.session k b.machine
  obtain ⟨_, m', n', hm, hn, hin⟩ := (Blind.destroy (c.session.get? k)).run hlevel.state
  rw [hm] at hrun
  rw [hlevel.slots, hn] at hb
  rw [hlevel.slots] at hslots
  exact .of_runs hrun hb hin hslots hanswer

theorem destroy_mirrored (hlevel : Level c b) (passed : Passed) (reply : Reply) :
    Mirrored c b (.destroy passed) ((Step.destroy passed).onBuffers c.session reply) := by
  cases hlook : lookUp c.session passed with
  | none =>
      have hcalls : (Step.destroy passed).onBuffers c.session reply = [] :=
        useBehind_of_null hlook .letGo
      have hrun : (perform c.session (.destroy passed)).run c.machine =
          ((⟨.silent, none⟩, assign c.session passed none),
            ((Handle.destroy (lookUp c.session passed)).run c.machine).2) := rfl
      have hsame := assign_lookUp c.session passed
      rw [hlook] at hrun hsame
      rw [hsame] at hrun
      rw [hcalls]
      exact .of_idle hlevel hrun (.destroyNull hlook)
  | some held =>
      obtain ⟨k, rfl, hget⟩ := exists_of_lookUp hlook
      have hcalls : (Step.destroy (some k)).onBuffers c.session reply = [⟨k, .use .letGo⟩] :=
        useBehind_of_held hget .letGo
      rw [hcalls]
      exact emptied_mirrored hlevel rfl (.destroyed hget rfl)

theorem clear_mirrored (hlevel : Level c b) (address : Passed) (reply : Reply) :
    Mirrored c b (.clear address) ((Step.clear address).onBuffers c.session reply) := by
  cases address with
  | none => exact .of_idle hlevel rfl .clearNothing
  | some k =>
      have hrun : (perform c.session (.clear (some k))).run c.machine =
          ((⟨.handle false, none⟩, c.session.set k none),
            ((Handle.destroy (c.session.get? k)).run c.machine).2) := rfl
      cases hget : c.session.get? k with
      | none =>
          have hlook : lookUp c.session (some k) = none := hget
          have hcalls : (Step.clear (some k)).onBuffers c.session reply = [] :=
            useBehind_of_null hlook .letGo
          have hsame := c.session.set_get?_self k
          rw [hget] at hrun hsame
          rw [hsame] at hrun
          rw [hcalls]
          exact .of_idle hlevel hrun (.clearNull hget)
      | some held =>
          have hcalls : (Step.clear (some k)).onBuffers c.session reply = [⟨k, .use .letGo⟩] :=
            useBehind_of_held hget .letGo
          rw [hcalls]
          exact emptied_mirrored hlevel hrun (.cleared hget rfl)

theorem fault_mirrored (hlevel : Level c b) (target : Target) (places : List Nat) :
    Mirrored c b (.fault target places) [⟨0, .fault target places⟩] := by
  obtain ⟨_, m', n', hm, hn, hin⟩ := (Blind.schedule target places).run hlevel.state
  have hc : (perform c.session (.fault target places)).run c.machine =
      ((⟨.silent, none⟩, c.session), ((Machine.schedule target places).run c.machine).2) := rfl
  have hb : (BufferScript.perform .system b.session ⟨0, .fault target places⟩).run b.machine =
      ((⟨.silent, none, (b.session.slots.get? 0).map (·.status)⟩, b.session),
        ((Machine.schedule target places).run b.machine).2) := rfl
  rw [hm] at hc
  rw [hn] at hb
  exact .of_runs hc hb hin hlevel.slots .scheduled

theorem peek_mirrored (hlevel : Level c b) (region : RegionId) (first len : Nat) :
    Mirrored c b (.peek region first len) [⟨0, .peek region first len⟩] := by
  have hc : (perform c.session (.peek region first len)).run c.machine =
      ((⟨.sight (c.machine.memory.peek region first len), none⟩, c.session), c.machine) := rfl
  have hb : (BufferScript.perform .system b.session ⟨0, .peek region first len⟩).run b.machine =
      ((⟨.sight (b.machine.memory.peek region first len), none,
        (b.session.slots.get? 0).map (·.status)⟩, b.session), b.machine) := rfl
  rw [hlevel.state.memory] at hb
  exact .of_runs hc hb hlevel.state.inStep hlevel.slots (.peeked rfl)

/-- **Every step of handles is mirrored by the steps of buffers behind it.** -/
theorem step_mirrored (hlevel : Level c b)
    (hcustody : Custody .systemCalls (Slots.holdings c.session) c.machine) (step : Step) :
    Mirrored c b step
      (step.onBuffers c.session (Script.playStep perform c step).1.reply.reply) := by
  cases step with
  | create slot size => exact create_mirrored hlevel hcustody slot size
  | store passed data len => exact store_mirrored hlevel passed data len _
  | retrieve passed len room fill => exact retrieve_mirrored hlevel hcustody passed len room fill _
  | getSize passed => exact getSize_mirrored hlevel passed _
  | destroy passed => exact destroy_mirrored hlevel passed _
  | clear address => exact clear_mirrored hlevel address _
  | fault target places => exact fault_mirrored hlevel target places
  | peek region first len => exact peek_mirrored hlevel region first len
  | version => exact .of_idle hlevel rfl .version
  | codeText code => exact .of_idle hlevel rfl .codeText

/-! ## §5. Whole scripts. -/

/-- **Scripts that start level stay level.** -/
theorem level_play (steps : List Step) :
    ∀ {c : Script.Scene Variables} {b : Script.Scene BufferScript.Session}, Level c b →
      Custody .systemCalls (Slots.holdings c.session) c.machine →
      Level (Script.play perform c steps).2
        (Script.play (BufferScript.perform .system) b (behind c steps)).2 := by
  induction steps with
  | nil =>
      intro c b hlevel _
      exact hlevel
  | cons step rest ih =>
      intro c b hlevel hcustody
      have hfirst := (step_mirrored hlevel hcustody step).level
      have hcustody' := keeps_custody.run hcustody step
      have hrest := ih hfirst hcustody'
      simp only [behind, Script.play, Script.play_append]
      exact hrest

/-- The handles that are destroyed at the end are the buffers that are let go of. -/
theorem destroyAll_eq_letGoAll (bs : List SealedBuffer) :
    destroyAll bs = BufferScript.letGoAll .system bs := by
  induction bs with
  | nil => rfl
  | cons h rest ih =>
      unfold destroyAll BufferScript.letGoAll
      rw [ih]
      rfl

/-- **What is level ends alike.** -/
theorem finish_mirrored (hlevel : Level c b) :
    Script.finish giveUp c = Script.finish (BufferScript.giveUp .system) b := by
  have hgiveUp : BufferScript.giveUp .system b.session = giveUp c.session := by
    unfold BufferScript.giveUp giveUp
    rw [hlevel.slots, destroyAll_eq_letGoAll]
    rfl
  obtain ⟨_, m', n', hm, hn, hin⟩ := (Blind.destroyAll c.session.values).run hlevel.state
  obtain ⟨htrace, hlog⟩ := hin.drop_eq
  have hc : (giveUp c.session).run c.machine = ((), m') := hm
  have hb : (giveUp c.session).run b.machine = ((), n') := hn
  simp only [Script.finish, Machine.report, hgiveUp, hc, hb, htrace, hlog, hin.memory]

/-- **The C interface simulates the operations of buffers.**  Beside every script of handles
there runs a script of buffers on the pages of the operating system, which goes on with the
operations behind each step.  After any steps the two are level: the same buffers in the same
memory, with the same faults to come.  Then every further step is mirrored: it gives the
result of the operations behind it, with their moments and their lines and one line more
where a creation fails, and the two are level again.  And they end alike. -/
theorem mirrored_by_buffers (page : UInt64) (steps : List Step) (step : Step) :
    let script := behind ⟨.empty, {}⟩ steps
    let c := sceneAfter steps
    let b := BufferScript.sceneAfter .system page script
    let calls := step.onBuffers c.session (Script.playStep perform c step).1.reply.reply
    behind ⟨.empty, {}⟩ (steps ++ [step]) = script ++ calls ∧
    Level c b ∧
    Mirrored c b step calls ∧
    (run steps).ending = (BufferScript.run .system page script).ending := by
  intro script c b calls
  have hlevel : Level c b := by
    refine level_play steps ⟨rfl, rfl, rfl⟩ ?_
    exact Custody.start _
  refine ⟨?_, hlevel, step_mirrored hlevel ?_ step, finish_mirrored hlevel⟩
  · rw [behind_append]
    exact congrArg (script ++ ·) (List.append_nil calls)
  · exact Scenario.custody (.handles steps)

end Mirroring

end HandleScript

end SealedPages
