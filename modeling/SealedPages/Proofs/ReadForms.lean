/-
  SealedPages.Proofs.ReadForms
  ────────────────────────────
  **THE TWO FORMS OF A READ AGREE.**  A read over bytes fills the bytes of its caller; a read of
  new bytes sets its own aside and gives them back.  The second form looks at the buffer and the
  length twice: before it sets anything aside, and again in the read over what it set aside.
  Still no buffer, no length and no refused call tells the forms apart.

  What is set aside is said for `readSettingAside`, in which that is a step of its own; a read of
  new bytes is the case in which zeros are.

  Main statements:
    * `run_read` — a read of new bytes comes to what the read over as many zeros does;
    * `readSettingAside_of_refused`, `readSettingAside_congr` — nothing is set aside for a length
      that is refused, and never more bytes than the buffer was made for;
    * `BufferScript.playStep_read` — the two forms as steps of a script;
    * `reads_agree` — all of it together.
-/
import SealedPages.Proofs.BufferOperations
import SealedPages.Proofs.StepRuns

namespace SealedPages

namespace SealedBuffer

variable {p : Platform} {b : SealedBuffer} {count : Nat}

/-! ## §1. Lengths that are refused. -/

/-- The error for a length that is refused. -/
def refusal (b : SealedBuffer) : BufferError :=
  if b.isDestroyed then .nullPointer else .invalidSize

/-- **A length is refused where it is zero or more than the buffer was made for.**  A destroyed
buffer has a length of zero, so that it refuses every one. -/
theorem holdingFor_of_refused (hcount : count = 0 ∨ b.len.toNat < count) :
    b.holdingFor count = .error b.refusal := by
  obtain ⟨holding⟩ := b
  cases holding with
  | none => rfl
  | some h => exact if_pos hcount

/-- A read over bytes refuses a length at once. -/
theorem readInto_of_error {out : Bytes} {e : BufferError}
    (h : b.holdingFor out.length = .error e) : readInto p b out = pure (out, ⟨.error e, b⟩) := by
  unfold readInto
  rw [h]

/-- So does a read of new bytes. -/
theorem read_of_error {e : BufferError} (h : b.holdingFor count = .error e) :
    read p b count = pure ⟨.error e, b⟩ := by
  rw [read_eq, h]

/-! ## §2. The forms on one machine. -/

/-- **A read of new bytes comes to what the read over as many zeros does**: it ends on the same
machine, with the same buffer, and gives what the other left in the zeros. -/
theorem run_read (p : Platform) (b : SealedBuffer) (count : Nat) (m : Machine) :
    (read p b count).run m =
      let filled := (readInto p b (Bytes.zeros count)).run m
      (⟨filled.1.2.result.map fun _ => filled.1.1, filled.1.2.buffer⟩, filled.2) := by
  cases hb : b.holdingFor count with
  | error e =>
      have hzeros : b.holdingFor (Bytes.zeros count).length = .error e := by
        rw [Bytes.length_zeros]
        exact hb
      rw [read_of_error hb, readInto_of_error hzeros]
      rfl
  | ok h =>
      rw [read_eq, hb]
      rfl

/-! ## §3. What is set aside. -/

/-- **For a length that is refused nothing is set aside**, however that is done. -/
theorem readSettingAside_of_refused (build : Nat → MachineM Bytes) (p : Platform)
    (hcount : count = 0 ∨ b.len.toNat < count) :
    readSettingAside build p b count = pure ⟨.error b.refusal, b⟩ := by
  unfold readSettingAside
  rw [holdingFor_of_refused hcount]

/-- **Never more bytes are set aside than the buffer was made for**: how longer runs are set
aside makes no difference. -/
theorem readSettingAside_congr {build build' : Nat → MachineM Bytes}
    (hbuild : ∀ n, 0 < n → n ≤ b.len.toNat → build n = build' n) :
    readSettingAside build p b count = readSettingAside build' p b count := by
  by_cases hcount : 0 < count ∧ count ≤ b.len.toNat
  · unfold readSettingAside
    rw [hbuild count hcount.1 hcount.2]
  · have hrefused : count = 0 ∨ b.len.toNat < count := by omega
    rw [readSettingAside_of_refused build p hrefused, readSettingAside_of_refused build' p hrefused]

end SealedBuffer

/-! ## §4. The forms as steps. -/

namespace BufferScript

/-- The answer to a read over bytes, with these bytes as its reply once it is done. -/
def Answer.givingBytes (a : Answer) : Answer where
  reply := match a.reply, a.out with
    | .done, some content => .bytes content
    | reply, _            => reply
  out := none
  status := a.status

theorem Answer.givingBytes_of_result (result : Except BufferError Unit) (copy : Bytes)
    (status : Option SealedBuffer.Status) :
    (⟨.ofResult result, some copy, status⟩ : Answer).givingBytes =
      ⟨.ofBytes (result.map fun _ => copy), none, status⟩ := by
  cases result <;> rfl

/-- **A step that reads new bytes is the step that reads over as many zeros**, with these as its
reply. -/
theorem playStep_read (kind : PlatformKind) (scene : Script.Scene Session) (k count : Nat) :
    Script.playStep (perform kind) scene ⟨k, .use (.read count)⟩ =
      let filled := Script.playStep (perform kind) scene ⟨k, .use (.readInto count 0)⟩
      (⟨filled.1.reply.givingBytes, filled.1.trace, filled.1.log⟩, filled.2) := by
  cases hb : scene.session.slots.get? k with
  | none =>
      rw [Script.playStep_of_unmoved (use_run_of_vacant hb scene.machine),
        Script.playStep_of_unmoved (use_run_of_vacant hb scene.machine)]
      rfl
  | some b =>
      have hnew := SealedBuffer.run_read (kind.platform scene.session.page) b count scene.machine
      rcases hover : (b.readInto (kind.platform scene.session.page) (Bytes.zeros count)).run
        scene.machine with ⟨⟨copy, result, b'⟩, m'⟩
      rw [hover] at hnew
      have huseOver : (use (kind.platform scene.session.page) b (.readInto count 0)).run
          scene.machine = ((.ofResult result, some copy, some b'), m') := run_bind_of_eq hover
      have huseNew : (use (kind.platform scene.session.page) b (.read count)).run scene.machine =
          ((.ofBytes (result.map fun _ => copy), none, some b'), m') := run_bind_of_eq hnew
      rw [Script.playStep_of_run (use_run hb huseOver), Script.playStep_of_run (use_run hb huseNew)]
      simp only [Answer.givingBytes_of_result]

end BufferScript

/-! ## §5. All of it. -/

open SealedBuffer in
/-- **The two forms of a read agree.**  On any platform, for any buffer and any number of bytes, a
read of new bytes and a read over as many zeros that start on one machine end on one machine, so
that they make the same calls and write the same lines, with the same buffer; they fail with the
same error, or what the one gives is what the other leaves in the zeros.  So they do as the next
step of a script.  Where the number is refused nothing is set aside, and never more bytes than
the buffer was made for. -/
theorem reads_agree :
    (∀ (p : Platform) (b : SealedBuffer) (count : Nat) (m : Machine), ∃ copy result b' m',
      (readInto p b (Bytes.zeros count)).run m = ((copy, ⟨result, b'⟩), m') ∧
      (read p b count).run m = (⟨result.map fun _ => copy, b'⟩, m')) ∧
    (∀ kind scene k count,
      Script.playStep (BufferScript.perform kind) scene ⟨k, .use (.read count)⟩ =
        let filled :=
          Script.playStep (BufferScript.perform kind) scene ⟨k, .use (.readInto count 0)⟩
        (⟨filled.1.reply.givingBytes, filled.1.trace, filled.1.log⟩, filled.2)) ∧
    (∀ (p : Platform) (b : SealedBuffer) (count : Nat),
      read p b count = readSettingAside (fun n => pure (Bytes.zeros n)) p b count ∧
      (count = 0 ∨ b.len.toNat < count → ∀ build,
        readSettingAside build p b count = pure ⟨.error b.refusal, b⟩) ∧
      ∀ build, (∀ n, 0 < n → n ≤ b.len.toNat → build n = pure (Bytes.zeros n)) →
        readSettingAside build p b count = read p b count) := by
  refine ⟨?_, BufferScript.playStep_read, ?_⟩
  · intro p b count m
    exact ⟨_, _, _, _, rfl, run_read p b count m⟩
  · intro p b count
    refine ⟨rfl, ?_, ?_⟩
    · intro hcount build
      exact readSettingAside_of_refused build p hcount
    · intro build hbuild
      exact readSettingAside_congr hbuild

/-- Zeros are set aside, and a line is written where they are more than five. -/
def zerosUpToFive (n : Nat) : MachineM Bytes := do
  if 5 < n then
    Machine.note (.allocationRefused n.toUInt64)
  return Bytes.zeros n

open SealedBuffer in
/-- A buffer for five bytes never writes that line, not even where it is asked for the greatest
length there is. -/
theorem five_bytes_set_aside :
    (∀ n, 0 < n → n ≤ 5 → zerosUpToFive n = pure (Bytes.zeros n)) ∧
    readSettingAside zerosUpToFive .system ⟨some ⟨1, 5, 4096, 4096, .noAccess⟩⟩ 5 =
      read .system ⟨some ⟨1, 5, 4096, 4096, .noAccess⟩⟩ 5 ∧
    readSettingAside zerosUpToFive .system ⟨some ⟨1, 5, 4096, 4096, .noAccess⟩⟩
        18446744073709551615 =
      pure ⟨.error .invalidSize, ⟨some ⟨1, 5, 4096, 4096, .noAccess⟩⟩⟩ := by
  have hzeros : ∀ n, 0 < n → n ≤ 5 → zerosUpToFive n = pure (Bytes.zeros n) := by
    intro n _ hn
    unfold zerosUpToFive
    rw [if_neg (by omega)]
  have hlong : (5 : UInt64).toNat < 18446744073709551615 := by decide
  obtain ⟨-, -, hforms⟩ := reads_agree
  refine ⟨hzeros, ?_, ?_⟩
  · exact (hforms .system ⟨some ⟨1, 5, 4096, 4096, .noAccess⟩⟩ 5).2.2 zerosUpToFive hzeros
  · exact (hforms .system ⟨some ⟨1, 5, 4096, 4096, .noAccess⟩⟩ 18446744073709551615).2.1
      (Or.inr hlong) zerosUpToFive

end SealedPages
