/-
  SealedPages.Proofs.DestroyedBuffers
  ───────────────────────────────────
  **A DESTROYED BUFFER STAYS DESTROYED.**  A buffer is destroyed by its owner, whether its pages
  open to be wiped or are given up, or by an access whose pages do not close again.  After that
  there is no way back: the buffer holds nothing that an operation could work on, and none puts
  anything into it.

    * a write or a read of any length finds no buffer, not even for a length of zero, and leaves
      the bytes of the caller alone;
    * destroying it again does nothing, and neither does letting go of it, in a step of its own,
      when another buffer takes its place, or at the end of a script.

  Main statements:
    * `run_use_destroyed` — every use of a destroyed buffer, on any machine;
    * `destroy_fst`, `Accessed.eq_destroyed` — how a buffer is destroyed;
    * `play_destroyed` — the buffer stays destroyed through steps that keep it;
    * `giveUp_destroyed`, `create_over_destroyed` — letting go of it makes no difference;
    * `destroyed_for_good` — all of it, after any steps.
-/
import SealedPages.Proofs.Accesses
import SealedPages.Proofs.Frame
import SealedPages.Proofs.StepRuns

namespace SealedPages

variable {v : View} {m m' : Machine}

/-! ## §1. What a destroyed buffer answers. -/

namespace BufferScript

namespace Use

/-- What a destroyed buffer replies to a use. -/
def replyDestroyed : Use → Reply
  | write _ | readInto _ _ | read _ => .failed (.refused .nullPointer)
  | destroy | letGo => .done
  | info => .silent
  | describe long =>
      .text (if long then SealedBuffer.destroyed.longDescription
        else SealedBuffer.destroyed.description)

/-- The bytes of the caller after it, which are those before it. -/
def outDestroyed : Use → Option Bytes
  | readInto len fill => some (List.replicate len fill)
  | _ => none

/-- What is left of a destroyed buffer after a use. -/
def leftDestroyed : Use → Option SealedBuffer
  | letGo => none
  | _ => some .destroyed

theorem leftDestroyed_of_ne {u : Use} (hu : u ≠ letGo) : u.leftDestroyed = some .destroyed := by
  cases u with
  | letGo => exact absurd rfl hu
  | _ => rfl

end Use

/-- **Every use of a destroyed buffer is answered at once**, by the use alone.  The machine is
left as it is: nothing is called, logged or touched. -/
theorem run_use_destroyed (p : Platform) (u : Use) (m : Machine) :
    (use p .destroyed u).run m = ((u.replyDestroyed, u.outDestroyed, u.leftDestroyed), m) := by
  cases u <;> rfl

variable {kind : PlatformKind} {scene : Script.Scene Session} {k : Nat}

/-- **A step on a destroyed buffer.** -/
theorem playStep_destroyed (h : scene.session.slots.get? k = some .destroyed) (u : Use) :
    Script.playStep (perform kind) scene ⟨k, .use u⟩ =
      (⟨⟨u.replyDestroyed, u.outDestroyed, u.leftDestroyed.map (·.status)⟩, [], []⟩,
        ⟨{ scene.session with slots := scene.session.slots.set k u.leftDestroyed },
          scene.machine⟩) := by
  have hused := run_use_destroyed (kind.platform scene.session.page) u scene.machine
  rw [Script.playStep_of_run (use_run h hused), List.drop_length, List.drop_length]

/-- A step that does not let go of the buffer changes nothing at all. -/
theorem playStep_destroyed_of_ne (h : scene.session.slots.get? k = some .destroyed) {u : Use}
    (hu : u ≠ .letGo) :
    Script.playStep (perform kind) scene ⟨k, .use u⟩ =
      (⟨⟨u.replyDestroyed, u.outDestroyed, some ⟨0, 0, 0, true, true⟩⟩, [], []⟩, scene) := by
  rw [playStep_destroyed h, Use.leftDestroyed_of_ne hu, ← h, Slots.set_get?_self, h]
  rfl

end BufferScript

/-! ## §2. How a buffer is destroyed. -/

/-- Destroying a buffer leaves a destroyed one, whatever its pages do. -/
theorem SealedBuffer.destroy_fst (p : Platform) (b : SealedBuffer) (m : Machine) :
    ((b.destroy p).run m).1 = .destroyed := by
  obtain ⟨holding⟩ := b
  cases holding <;> rfl

/-- Whether an event is the refusal to close pages. -/
def Event.refusesClosing : Event → Bool
  | .system (.mprotect _ .noAccess .refused) => true
  | .service (.protect _ .noAccess .refused) => true
  | _ => false

/-- Setting the protection of pages is one call, and it says so. -/
theorem refusesClosing_of_mem_protect {j : RegionId} {L : UInt64} {mode : Protection}
    {out : Verdict} {word : List Event} {e : Event}
    (hword : word ∈ (v.spelling j L).protect mode out) (he : e ∈ word)
    (hrefused : e.refusesClosing = true) : mode = .noAccess ∧ out = .refused := by
  cases v <;>
  · cases hword
    rw [List.mem_singleton.1 he] at hrefused
    cases mode <;> cases out <;> simp_all [Event.refusesClosing]

/-- **Where pages are not closed after an access, the buffer is destroyed.** -/
theorem Accessed.eq_destroyed {α : Type} {b b' : SealedBuffer} {count : Nat}
    {change : Bytes → Bytes} {value : Bytes → α} {calls : List Event}
    {result : Except BufferError α}
    (ha : Accessed v b count change value m calls result b' m') {e : Event} (he : e ∈ calls)
    (hrefused : e.refusesClosing = true) : b' = .destroyed := by
  cases ha with
  | destroyed | outOfRange => cases he
  | closed hb hcount hcalls hmemory =>
      have hmode := (refusesClosing_of_mem_protect hcalls he hrefused).1
      cases hmode
  | finished hb hcount hcalls =>
      obtain ⟨opening, hopening, closing, hclosing, rfl⟩ := hcalls
      rcases List.mem_append.1 he with hmem | hmem
      · have hmode := (refusesClosing_of_mem_protect hopening hmem hrefused).1
        cases hmode
      · have hout := (refusesClosing_of_mem_protect hclosing hmem hrefused).2
        cases hout
  | broken => rfl

namespace BufferScript

/-- Whether a use opens the pages of a buffer to copy. -/
def Use.isAccess : Use → Bool
  | write _ | readInto _ _ | read _ => true
  | _ => false

/-- **A use that copies ends as an access does.** -/
theorem use_accessed (kind : PlatformKind) (page : UInt64) {b : SealedBuffer} {u : Use}
    (hheld : ∀ h, b.holding = some h → (m.story h.region).Held kind.view h)
    (hu : u.isAccess = true) :
    ∃ reply out b' new m' count change result,
      (use (kind.platform page) b u).run m = ((reply, out, some b'), m') ∧
      m'.trace = m.trace ++ new ∧
      Accessed kind.view b count change (fun _ => ()) m (kind.view.calls new) result b' m' := by
  cases u with
  | write data =>
      obtain ⟨o, new, m', hrun, hnew, ha⟩ := b.write_accessed kind page hheld data
      exact ⟨_, _, _, new, m', _, _, _, run_bind_of_eq hrun, hnew, ha⟩
  | readInto len fill =>
      obtain ⟨copy, o, new, m', hrun, hnew, ha⟩ :=
        b.readInto_accessed kind page hheld (List.replicate len fill)
      exact ⟨_, _, _, new, m', _, _, _, run_bind_of_eq hrun, hnew, ha.map fun _ => ()⟩
  | read len =>
      obtain ⟨o, new, m', hrun, hnew, ha⟩ := b.read_accessed kind page hheld len
      exact ⟨_, _, _, new, m', _, _, _, run_bind_of_eq hrun, hnew, ha.map fun _ => ()⟩
  | destroy | letGo | info | describe long => cases hu

variable {kind : PlatformKind} {scene : Script.Scene Session} {k : Nat} {b : SealedBuffer}

/-- A slot whose buffer is destroyed, and what its step shows of it. -/
structure LeavesDestroyed (k : Nat) (played : Report Answer × Script.Scene Session) : Prop where
  slot : played.2.session.slots.get? k = some .destroyed
  status : played.1.reply.status = some ⟨0, 0, 0, true, true⟩

/-- A step that leaves a destroyed buffer in its slot. -/
theorem leavesDestroyed_of_run {u : Use} {reply : Reply} {out : Option Bytes}
    (hk : scene.session.slots.get? k = some b)
    (hrun : (use (kind.platform scene.session.page) b u).run scene.machine =
      ((reply, out, some .destroyed), m')) :
    LeavesDestroyed k (Script.playStep (perform kind) scene ⟨k, .use u⟩) := by
  rw [Script.playStep_of_run (use_run hk hrun)]
  exact ⟨Slots.get?_set_self _ _ _, rfl⟩

/-- **A buffer is destroyed by its owner**, and the step is done. -/
theorem destroy_leavesDestroyed (hk : scene.session.slots.get? k = some b) :
    LeavesDestroyed k (Script.playStep (perform kind) scene ⟨k, .use .destroy⟩) ∧
      (Script.playStep (perform kind) scene ⟨k, .use .destroy⟩).1.reply.reply = .done := by
  have hdestroy := b.destroy_fst (kind.platform scene.session.page) scene.machine
  rcases hran : (b.destroy (kind.platform scene.session.page)).run scene.machine with ⟨b', m'⟩
  rw [hran] at hdestroy
  have hrun : (use (kind.platform scene.session.page) b .destroy).run scene.machine =
      ((.done, none, some b'), m') := run_bind_of_eq hran
  rw [show b' = .destroyed from hdestroy] at hrun
  refine ⟨leavesDestroyed_of_run hk hrun, ?_⟩
  rw [Script.playStep_of_run (use_run hk hrun)]

/-- **And by an access whose pages are not closed.** -/
theorem access_leavesDestroyed (hk : scene.session.slots.get? k = some b)
    (hheld : ∀ h, b.holding = some h → (scene.machine.story h.region).Held kind.view h) {u : Use}
    (hu : u.isAccess = true) {e : Event}
    (he : e ∈ kind.view.calls (Script.playStep (perform kind) scene ⟨k, .use u⟩).1.trace)
    (hrefused : e.refusesClosing = true) :
    LeavesDestroyed k (Script.playStep (perform kind) scene ⟨k, .use u⟩) := by
  obtain ⟨reply, out, b', new, m', count, change, result, hrun, hnew, ha⟩ :=
    use_accessed kind scene.session.page hheld hu
  rw [Script.playStep_of_run (use_run hk hrun), hnew, List.drop_left] at he
  rw [ha.eq_destroyed he hrefused] at hrun
  exact leavesDestroyed_of_run hk hrun

/-! ## §3. It stays destroyed. -/

/-- Whether an action may take the buffer out of its slot. -/
def Action.removes : Action → Bool
  | create _ | use .letGo => true
  | _ => false

/-- **A step that takes no buffer out of its slot leaves a destroyed one there.** -/
theorem playStep_keeps_destroyed (h : scene.session.slots.get? k = some .destroyed) {x : Step}
    (hx : x.slot = k → x.action.removes = false) :
    (Script.playStep (perform kind) scene x).2.session.slots.get? k = some .destroyed := by
  obtain ⟨slot, action⟩ := x
  by_cases hslot : slot = k
  · have hkept := hx hslot
    subst hslot
    cases action with
    | create size => cases hkept
    | use u =>
        have hu : u ≠ .letGo := by
          intro hletGo
          rw [hletGo] at hkept
          cases hkept
        rw [playStep_destroyed_of_ne h hu]
        exact h
    | setPageSize value | fault target places | peek region first len => exact h
  · have hothers := (act_others kind scene.session slot action scene.machine).1
    exact (hothers k fun e => hslot e.symm).trans h

/-- **The buffer stays destroyed through steps that keep it in its slot.** -/
theorem play_destroyed (rest : List Step) :
    (∀ x ∈ rest, x.slot = k → x.action.removes = false) →
    ∀ scene : Script.Scene Session, scene.session.slots.get? k = some .destroyed →
      (Script.play (perform kind) scene rest).2.session.slots.get? k = some .destroyed := by
  induction rest with
  | nil =>
      intro _ scene h
      exact h
  | cons x rest ih =>
      intro hrest scene h
      have hfirst : (Script.playStep (perform kind) scene x).2.session.slots.get? k =
          some .destroyed := playStep_keeps_destroyed h (hrest x List.mem_cons_self)
      exact ih (fun y hy => hrest y (List.mem_cons_of_mem x hy)) _ hfirst

/-! ## §4. Letting go of it. -/

/-- A session in which a slot is emptied. -/
def Session.without (s : Session) (k : Nat) : Session :=
  { s with slots := s.slots.erase k }

/-- **At the end of a script only buffers that are not destroyed matter.** -/
theorem letGoAll_eq_filter (p : Platform) (bs : List SealedBuffer) :
    letGoAll p bs = letGoAll p (bs.filter fun b => !b.isDestroyed) := by
  induction bs with
  | nil => rfl
  | cons b rest ih =>
      by_cases hb : b.isDestroyed = true
      · have hnone := SealedBuffer.isDestroyed_iff.1 hb
        rw [List.filter_cons_of_neg (by simp [hb]), ← ih, hnone]
        rfl
      · rw [List.filter_cons_of_pos (by simpa using hb)]
        unfold letGoAll
        rw [ih]

/-- **The end of a script does for a destroyed buffer what it does for an empty slot.** -/
theorem giveUp_destroyed {s : Session} (h : s.slots.get? k = some .destroyed) :
    giveUp kind s = giveUp kind (s.without k) := by
  unfold giveUp
  have hsame : (s.slots.erase k).values.filter (fun b => !b.isDestroyed) =
      s.slots.values.filter fun b => !b.isDestroyed := s.slots.filter_values_erase h rfl
  rw [letGoAll_eq_filter, ← hsame, ← letGoAll_eq_filter]
  rfl

/-- **So does a creation that puts another buffer in its place.** -/
theorem create_over_destroyed {s : Session} (h : s.slots.get? k = some .destroyed) (size : UInt64)
    (m : Machine) :
    ((perform kind s ⟨k, .create size⟩).run m).2 =
      ((perform kind (s.without k) ⟨k, .create size⟩).run m).2 := by
  have hempty : (s.without k).slots.get? k = none := s.slots.get?_set_self k none
  have hcreate : ((create (kind.platform s.page) s k size).run m).2 =
      ((create (kind.platform s.page) (s.without k) k size).run m).2 := by
    unfold create
    rw [run_bind, run_bind, h, hempty]
    rcases StateT.run (SealedBuffer.create (kind.platform s.page) size).run m with ⟨f | made, m₁⟩
    · rfl
    · rfl
  exact hcreate

/-! ## §5. After any steps. -/

/-- **Destroyed is for good.**  After any steps, destroying the buffer in a slot leaves it
destroyed, and so does an access to it whose pages are not closed.  Through all steps that follow,
as long as none takes the buffer out of its slot, it stays so: destroying it is done and does
nothing, a write or a read of any bytes finds no buffer and leaves the bytes as they are, and all
that can be asked of it is zero.  Each is answered with no call, no line and no change of the
scene.  Letting go of it empties the slot and does nothing else; a creation in its place and the
end of the script run as if the slot were empty. -/
theorem destroyed_for_good (kind : PlatformKind) (page : UInt64) (before : List Step) (k : Nat) :
    (∀ b, (sceneAfter kind page before).session.slots.get? k = some b →
      (LeavesDestroyed k
          (Script.playStep (perform kind) (sceneAfter kind page before) ⟨k, .use .destroy⟩) ∧
        (Script.playStep (perform kind) (sceneAfter kind page before)
          ⟨k, .use .destroy⟩).1.reply.reply = .done) ∧
      ∀ u : Use, u.isAccess = true →
        (∃ e ∈ kind.view.calls (Script.playStep (perform kind) (sceneAfter kind page before)
          ⟨k, .use u⟩).1.trace, e.refusesClosing = true) →
        LeavesDestroyed k
          (Script.playStep (perform kind) (sceneAfter kind page before) ⟨k, .use u⟩)) ∧
    ((sceneAfter kind page before).session.slots.get? k = some .destroyed →
      ∀ rest : List Step, (∀ x ∈ rest, x.slot = k → x.action.removes = false) →
        ∃ scene, sceneAfter kind page (before ++ rest) = scene ∧
          scene.session.slots.get? k = some .destroyed ∧
          (∀ u : Use, u ≠ .letGo → Script.playStep (perform kind) scene ⟨k, .use u⟩ =
            (⟨⟨u.replyDestroyed, u.outDestroyed, some ⟨0, 0, 0, true, true⟩⟩, [], []⟩, scene)) ∧
          Script.playStep (perform kind) scene ⟨k, .use .letGo⟩ =
            (⟨⟨.done, none, none⟩, [], []⟩, ⟨scene.session.without k, scene.machine⟩) ∧
          (∀ size, ((perform kind scene.session ⟨k, .create size⟩).run scene.machine).2 =
            ((perform kind (scene.session.without k) ⟨k, .create size⟩).run scene.machine).2) ∧
          giveUp kind scene.session = giveUp kind (scene.session.without k)) := by
  constructor
  · intro b hk
    refine ⟨destroy_leavesDestroyed hk, ?_⟩
    intro u hu hrefused
    obtain ⟨e, he, hclosing⟩ := hrefused
    have hheld := Scenario.held_of_slot (σ := .buffers kind page before) hk
    exact access_leavesDestroyed hk hheld hu he hclosing
  · intro hdestroyed rest hrest
    have hlater : (sceneAfter kind page (before ++ rest)).session.slots.get? k =
        some .destroyed := by
      unfold sceneAfter
      rw [Script.play_append]
      exact play_destroyed rest hrest _ hdestroyed
    refine ⟨_, rfl, hlater, fun u hu => playStep_destroyed_of_ne hlater hu,
      playStep_destroyed hlater .letGo, fun size => create_over_destroyed hlater size _,
      giveUp_destroyed hlater⟩

/-- A buffer of five bytes, whose pages will open once more and not close. -/
def pagesStayOpen : List Step :=
  [⟨0, .create 5⟩, ⟨0, .fault .protect [2]⟩]

/-- A write to it destroys it; another buffer is made; then the greatest number of bytes there is
finds no buffer to be read from. -/
theorem read_after_pages_stay_open :
    (∃ e ∈ View.serviceCalls.calls (Script.playStep (perform .custom)
        (sceneAfter .custom 8 pagesStayOpen) ⟨0, .use (.write [1, 2, 3])⟩).1.trace,
      e.refusesClosing = true) ∧
    (Script.playStep (perform .custom)
        (sceneAfter .custom 8 (pagesStayOpen ++ [⟨0, .use (.write [1, 2, 3])⟩] ++ [⟨1, .create 3⟩]))
        ⟨0, .use (.read 18446744073709551615)⟩).1 =
      ⟨⟨.failed (.refused .nullPointer), none, some ⟨0, 0, 0, true, true⟩⟩, [], []⟩ := by
  have hrefused : ∃ e ∈ View.serviceCalls.calls (Script.playStep (perform .custom)
      (sceneAfter .custom 8 pagesStayOpen) ⟨0, .use (.write [1, 2, 3])⟩).1.trace,
      e.refusesClosing = true := by decide
  have hleft : LeavesDestroyed 0 (Script.playStep (perform .custom)
      (sceneAfter .custom 8 pagesStayOpen) ⟨0, .use (.write [1, 2, 3])⟩) :=
    ((destroyed_for_good .custom 8 pagesStayOpen 0).1 ⟨some ⟨1, 5, 8, 8, .noAccess⟩⟩ rfl).2
      (.write [1, 2, 3]) rfl hrefused
  have hslot : (sceneAfter .custom 8
      (pagesStayOpen ++ [⟨0, .use (.write [1, 2, 3])⟩])).session.slots.get? 0 = some .destroyed :=
    hleft.slot
  obtain ⟨scene, rfl, -, huses, -⟩ :=
    (destroyed_for_good .custom 8 (pagesStayOpen ++ [⟨0, .use (.write [1, 2, 3])⟩]) 0).2 hslot
      [⟨1, .create 3⟩] (by decide)
  refine ⟨hrefused, ?_⟩
  rw [huses (.read 18446744073709551615) (fun h => by cases h)]
  rfl

end BufferScript

end SealedPages
