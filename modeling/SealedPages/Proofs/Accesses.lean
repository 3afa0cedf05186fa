/-
  SealedPages.Proofs.Accesses
  ───────────────────────────
  **HOW AN ACCESS ENDS.**  A buffer that is destroyed, or that is asked for no byte or for more
  than it has, answers at once: nothing is called and nothing changes.  Any other access opens
  the pages, copies, and closes them again.  If they do not open, all is as before.  If they
  open and close, the copy was made and nothing else was done.  If they do not close, the
  buffer is destroyed on the spot.  There is no other way, and each has its own calls.

  Main statements:
    * `access_cases` — an access to a held region, with all its calls;
    * `write_accessed`, `readInto_accessed`, `read_accessed` — the three uses, from any machine
      in custody;
    * `readInto_cases` — a read with the bytes that it gives back;
    * `Scenario.accesses_end` — the same after any steps.
-/
import SealedPages.Proofs.Scenario
import SealedPages.Proofs.ShownCalls

namespace SealedPages

open Computability

variable {m m' : Machine} {h : Holding}

/-! ## §1. An access to a held region. -/

namespace SealedBuffer

/-- **An access to a held region ends in one of three ways**, by its calls, and leaves every
other region alone. -/
theorem access_cases (kind : BufferScript.PlatformKind) (page : UInt64) {α : Type}
    {body : MachineM α} {turns : Bytes → α → Bytes → Prop} {Q : α → α → Prop}
    (hheld : (m.story h.region).Held kind.view h)
    (hbody : Kernel.TurnsRegion kind.view h.region h.capacity body turns)
    (habout : Coupled (Diagonal (About h.region m)) Q body body) :
    ∃ r a b new m', m.memory.find? h.region = some r ∧ r.Resting h.capacity ∧
      (access (kind.platform page) h body).run m = ((a, b), m') ∧
      Ended h r turns m'.memory a b ∧
      m'.trace = m.trace ++ new ∧
      kind.view.calls new ∈ callsOf (kind.view.spelling h.region h.capacity) a ∧
      ∀ id ≠ h.region, m'.story id = m.story id := by
  obtain ⟨r, a, b, m', hr, hrest, hrun, hended, hstretch⟩ :=
    access_ended (BufferScript.serves_pageSize kind page) hheld hbody
  have hnames := access_about kind page (h := h) habout
  rw [hrun] at hnames
  obtain ⟨new, hnew, hcalls⟩ := hstretch.spelt hnames
  exact ⟨r, a, b, new, m', hr, hrest, hrun, hended, hnew, hcalls,
    fun id hid => hstretch.story_of_ne hid⟩

end SealedBuffer

/-! ## §2. How an access ends. -/

/-- **How an access to the first `count` bytes of the buffer `b` ends**: its calls, its result,
the buffer, and the machine.  An access that is done makes of the bytes of the region what
`change` makes of them, and gives the `value` of what they were. -/
inductive Accessed {α : Type} (v : View) (b : SealedBuffer) (count : Nat)
    (change : Bytes → Bytes) (value : Bytes → α) (m : Machine) :
    List Event → Except BufferError α → SealedBuffer → Machine → Prop
  /-- The buffer is destroyed. -/
  | destroyed (hb : b.holding = none) :
      Accessed v b count change value m [] (.error .nullPointer) b m
  /-- No byte is asked for, or more than the buffer has. -/
  | outOfRange {h : Holding} (hb : b.holding = some h)
      (hcount : count = 0 ∨ h.len.toNat < count) :
      Accessed v b count change value m [] (.error .invalidSize) b m
  /-- The pages do not open. -/
  | closed {h : Holding} {calls : List Event} {m' : Machine} (hb : b.holding = some h)
      (hcount : 0 < count ∧ count ≤ h.len.toNat)
      (hcalls : calls ∈ (v.spelling h.region h.capacity).protect .readWrite .refused)
      (hmemory : m'.memory = m.memory) :
      Accessed v b count change value m calls (.error .protectFailed) b m'
  /-- The pages open, the copy is made, and the pages close again. -/
  | finished {h : Holding} {calls : List Event} {r : Region} {m' : Machine}
      (hb : b.holding = some h) (hcount : 0 < count ∧ count ≤ h.len.toNat)
      (hcalls : calls ∈ (v.spelling h.region h.capacity).protect .readWrite .granted *
        (v.spelling h.region h.capacity).protect .noAccess .granted)
      (hbefore : m.memory.find? h.region = some r) (hfits : count ≤ r.bytes.length)
      (hafter : m'.memory.find? h.region = some { r with bytes := change r.bytes })
      (hothers : ∀ id ≠ h.region, m'.story id = m.story id) :
      Accessed v b count change value m calls (.ok (value r.bytes)) b m'
  /-- The pages open, the copy is made, and the pages do not close again: they are wiped,
  unpinned and handed back. -/
  | broken {h : Holding} {calls : List Event} {r : Region} {m' : Machine}
      (hb : b.holding = some h) (hcount : 0 < count ∧ count ≤ h.len.toNat)
      (hcalls : calls ∈ (v.spelling h.region h.capacity).protect .readWrite .granted *
        (v.spelling h.region h.capacity).protect .noAccess .refused *
        ((v.spelling h.region h.capacity).wipe * (v.spelling h.region h.capacity).unlock *
          (v.spelling h.region h.capacity).release))
      (hafter : m'.memory.find? h.region = some r) (hfreed : r.live = false)
      (hlength : r.bytes.length = h.capacity.toNat) (hzero : r.IsZero)
      (hothers : ∀ id ≠ h.region, m'.story id = m.story id) :
      Accessed v b count change value m calls (.error .protectFailed) .destroyed m'

variable {α β : Type} {v : View} {b b' : SealedBuffer} {count : Nat} {change : Bytes → Bytes}
  {value : Bytes → α}

/-- What is made of the value of an access does not change how it ends. -/
theorem Accessed.map {calls : List Event} {result : Except BufferError α}
    (ha : Accessed v b count change value m calls result b' m') (f : α → β) :
    Accessed v b count change (fun bytes => f (value bytes)) m calls (result.map f) b' m' := by
  cases ha with
  | destroyed hb => exact .destroyed hb
  | outOfRange hb hcount => exact .outOfRange hb hcount
  | closed hb hcount hcalls hmemory => exact .closed hb hcount hcalls hmemory
  | finished hb hcount hcalls hbefore hfits hafter hothers =>
      exact .finished hb hcount hcalls hbefore hfits hafter hothers
  | broken hb hcount hcalls hafter hfreed hlength hzero hothers =>
      exact .broken hb hcount hcalls hafter hfreed hlength hzero hothers

namespace SealedBuffer

/-- A count that is refused is answered at once. -/
theorem accessed_of_error {e : BufferError} (hb : b.holdingFor count = .error e) :
    Accessed v b count change value m (v.calls []) (.error e) b m := by
  rcases holdingFor_eq_error hb with ⟨hnone, rfl⟩ | ⟨h, hsome, hcount, rfl⟩
  · exact .destroyed hnone
  · exact .outOfRange hsome hcount

/-- A count that is accepted is an access to the region. -/
theorem accessed_of_ended {turns : Bytes → α → Bytes → Prop} {r : Region}
    {a : Access α} {calls : List Event} (hb : b.holdingFor count = .ok h)
    (hr : m.memory.find? h.region = some r) (hfits : count ≤ r.bytes.length)
    (hended : Ended h r turns m'.memory a b')
    (hturns : ∀ given bytes, turns r.bytes given bytes →
      given = value r.bytes ∧ bytes = change r.bytes)
    (hcalls : calls ∈ callsOf (v.spelling h.region h.capacity) a)
    (hothers : ∀ id ≠ h.region, m'.story id = m.story id) :
    Accessed v b count change value m calls a.result b' m' := by
  obtain ⟨hsome, hle⟩ := holdingFor_eq_ok hb
  have hcount : 0 < count ∧ count ≤ h.len.toNat := ⟨pos_of_holdingFor hb, hle⟩
  have hsame : (⟨some h⟩ : SealedBuffer) = b := congrArg SealedBuffer.mk hsome.symm
  cases hended with
  | closed hfound =>
      rw [hsame]
      refine .closed hsome hcount hcalls (Memory.ext_find? fun id => ?_)
      by_cases hid : id = h.region
      · rw [hid, hfound, hr]
      · exact congrArg Story.region (hothers id hid)
  | finished hturned hlength hfound =>
      obtain ⟨hgiven, hbytes⟩ := hturns _ _ hturned
      rw [hsame, hgiven]
      rw [hbytes] at hfound
      exact .finished hsome hcount hcalls hr hfits hfound hothers
  | broken hfound hfreed hlength hzero =>
      exact .broken hsome hcount hcalls hfound hfreed hlength hzero hothers

/-! ## §3. Writing and reading. -/

variable (kind : BufferScript.PlatformKind) (page : UInt64)

/-- **A write** lays its data over the first bytes. -/
theorem write_accessed (hheld : ∀ h, b.holding = some h → (m.story h.region).Held kind.view h)
    (data : Bytes) :
    ∃ o new m', (b.write (kind.platform page) data).run m = (o, m') ∧
      m'.trace = m.trace ++ new ∧
      Accessed kind.view b data.length (fun bytes => data ++ bytes.drop data.length) (fun _ => ())
        m (kind.view.calls new) o.result o.buffer m' := by
  unfold write
  cases hb : b.holdingFor data.length with
  | error e => exact ⟨_, [], m, rfl, (List.append_nil _).symm, accessed_of_error hb⟩
  | ok h =>
      obtain ⟨hsome, hle⟩ := holdingFor_eq_ok hb
      have hheld := hheld h hsome
      obtain ⟨r, a, b', new, m', hr, hrest, hrun, hended, hnew, hcalls, hothers⟩ :=
        access_cases kind page hheld
          (Kernel.copyIn_turnsRegion data (front_le_capacity hheld.rounded hle))
          (About.unreserved.copyIn _ data data rfl)
      have hfits : data.length ≤ r.bytes.length := by
        rw [hrest.length]
        exact Nat.le_trans hle (UInt64.le_iff_toNat_le.1 (le_of_roundUp hheld.rounded.2))
      have hturns : ∀ (given : Unit) (bytes : Bytes), bytes = Bytes.patch r.bytes 0 data →
          given = () ∧ bytes = data ++ r.bytes.drop data.length := by
        intro given bytes hbytes
        rw [hbytes, Bytes.patch_zero hfits]
        exact ⟨rfl, rfl⟩
      exact ⟨⟨a.result, b'⟩, new, m', run_bind_of_eq hrun, hnew,
        accessed_of_ended hb hr hfits hended hturns hcalls hothers⟩

/-- **A read over bytes** is refused at once, or an access that copies the first bytes of the
region. -/
theorem readInto_cases (hheld : ∀ h, b.holding = some h → (m.story h.region).Held kind.view h)
    (out : Bytes) :
    (∃ e, b.holdingFor out.length = .error e ∧
      (b.readInto (kind.platform page) out).run m = ((out, ⟨.error e, b⟩), m)) ∨
    (∃ h r a b' new m', b.holdingFor out.length = .ok h ∧
      m.memory.find? h.region = some r ∧ out.length ≤ r.bytes.length ∧
      (b.readInto (kind.platform page) out).run m =
        ((a.fillOut out, ⟨a.result.map fun _ => (), b'⟩), m') ∧
      Ended h r (fun before copy after => copy = before.take out.length ∧ after = before)
        m'.memory a b' ∧
      m'.trace = m.trace ++ new ∧
      kind.view.calls new ∈ callsOf (kind.view.spelling h.region h.capacity) a ∧
      ∀ id ≠ h.region, m'.story id = m.story id) := by
  unfold readInto
  cases hb : b.holdingFor out.length with
  | error e => exact Or.inl ⟨e, rfl, rfl⟩
  | ok h =>
      obtain ⟨hsome, hle⟩ := holdingFor_eq_ok hb
      have hheld := hheld h hsome
      have hfront := front_le_capacity hheld.rounded hle
      -- a length that fits is not cut short by the word that passes it on
      have hword : out.length.toUInt64.toNat = out.length :=
        Nat.mod_eq_of_lt (Nat.lt_of_le_of_lt hle h.len.toNat_lt)
      obtain ⟨r, a, b', new, m', hr, hrest, hrun, hended, hnew, hcalls, hothers⟩ :=
        access_cases kind page hheld (Kernel.copyOut_turnsRegion hfront)
          (About.unreserved.copyOut _)
      have hfits : out.length ≤ r.bytes.length := by
        rw [hrest.length, ← hword]
        exact UInt64.le_iff_toNat_le.1 hfront
      rw [hword] at hended
      exact Or.inr ⟨h, r, a, b', new, m', rfl, hr, hfits, run_bind_of_eq hrun, hended, hnew, hcalls,
        hothers⟩

/-- The bytes that come back from a read that is done are its copy. -/
theorem result_map_fillOut (a : Access Bytes) (out : Bytes) :
    ((a.result.map fun _ => ()).map fun _ => a.fillOut out) = a.result := by
  cases a <;> rfl

/-- **A read** leaves the bytes as they are, and its copy is the first of them. -/
theorem readInto_accessed (hheld : ∀ h, b.holding = some h → (m.story h.region).Held kind.view h)
    (out : Bytes) :
    ∃ copy o new m', (b.readInto (kind.platform page) out).run m = ((copy, o), m') ∧
      m'.trace = m.trace ++ new ∧
      Accessed kind.view b out.length (fun bytes => bytes) (fun bytes => bytes.take out.length) m
        (kind.view.calls new) (o.result.map fun _ => copy) o.buffer m' := by
  rcases readInto_cases kind page hheld out with
    ⟨e, hb, hrun⟩ | ⟨h, r, a, b', new, m', hb, hr, hfits, hrun, hended, hnew, hcalls, hothers⟩
  · exact ⟨out, _, [], m, hrun, (List.append_nil _).symm, accessed_of_error hb⟩
  · have haccessed : Accessed kind.view b out.length (fun bytes => bytes)
        (fun bytes => bytes.take out.length) m (kind.view.calls new) a.result b' m' :=
      accessed_of_ended hb hr hfits hended (fun _ _ hturned => hturned) hcalls hothers
    rw [← result_map_fillOut a out] at haccessed
    exact ⟨_, _, new, m', hrun, hnew, haccessed⟩

/-- **So does a read of new bytes**, and it gives the copy. -/
theorem read_accessed (hheld : ∀ h, b.holding = some h → (m.story h.region).Held kind.view h)
    (count : Nat) :
    ∃ o new m', (b.read (kind.platform page) count).run m = (o, m') ∧
      m'.trace = m.trace ++ new ∧
      Accessed kind.view b count (fun bytes => bytes) (fun bytes => bytes.take count) m
        (kind.view.calls new) o.result o.buffer m' := by
  rw [read_eq]
  cases hb : b.holdingFor count with
  | error e => exact ⟨_, [], m, rfl, (List.append_nil _).symm, accessed_of_error hb⟩
  | ok h =>
      obtain ⟨copy, o, new, m', hrun, hnew, haccessed⟩ :=
        readInto_accessed kind page hheld (Bytes.zeros count)
      rw [Bytes.length_zeros] at haccessed
      exact ⟨⟨o.result.map fun _ => copy, o.buffer⟩, new, m', run_bind_of_eq hrun, hnew, haccessed⟩

end SealedBuffer

/-! ## §4. After any steps. -/

namespace Scenario

/-- What the buffer in a slot holds is held by it. -/
theorem held_of_slot {σ : Scenario} {k : Nat} {b : SealedBuffer} (hk : σ.slots.get? k = some b) :
    ∀ h, b.holding = some h → (σ.machine.story h.region).Held σ.kind.view h := by
  intro h hh
  rw [σ.view_kind]
  exact Holds.held ⟨b, hk, hh⟩

/-- **How every access ends.**  After any steps, a write of any data to the buffer in any slot, a
read over any bytes, and a read of any number of new bytes end in one of the ways of `Accessed`:
the data of a write takes the place of the first bytes; a read leaves the bytes as they are, and
what it gives back once it is done are the first of them. -/
theorem accesses_end (σ : Scenario) (k : Nat) (b : SealedBuffer) (hk : σ.slots.get? k = some b)
    (page : UInt64) :
    (∀ data : Bytes, ∃ o new m',
      (b.write (σ.kind.platform page) data).run σ.machine = (o, m') ∧
      m'.trace = σ.machine.trace ++ new ∧
      Accessed σ.view b data.length (fun bytes => data ++ bytes.drop data.length) (fun _ => ())
        σ.machine (σ.view.calls new) o.result o.buffer m') ∧
    (∀ out : Bytes, ∃ copy o new m',
      (b.readInto (σ.kind.platform page) out).run σ.machine = ((copy, o), m') ∧
      m'.trace = σ.machine.trace ++ new ∧
      Accessed σ.view b out.length (fun bytes => bytes) (fun bytes => bytes.take out.length)
        σ.machine (σ.view.calls new) (o.result.map fun _ => copy) o.buffer m') ∧
    (∀ count : Nat, ∃ o new m',
      (b.read (σ.kind.platform page) count).run σ.machine = (o, m') ∧
      m'.trace = σ.machine.trace ++ new ∧
      Accessed σ.view b count (fun bytes => bytes) (fun bytes => bytes.take count) σ.machine
        (σ.view.calls new) o.result o.buffer m') := by
  rw [← σ.view_kind]
  have hheld := held_of_slot hk
  exact ⟨SealedBuffer.write_accessed σ.kind page hheld,
    SealedBuffer.readInto_accessed σ.kind page hheld,
    SealedBuffer.read_accessed σ.kind page hheld⟩

/-- A buffer of five bytes on a page of eight, the first two of them written. -/
def twoBytesWritten : Scenario :=
  buffers .custom 8 [⟨0, .create 5⟩, ⟨0, .use (.write [7, 8])⟩]

/-- Such a buffer, whose pages will open once more and not close. -/
def pagesOpenOnce : Scenario :=
  buffers .custom 8
    [⟨0, .create 5⟩, ⟨0, .use (.write [7, 8])⟩, ⟨0, .fault .protect [2]⟩]

/-- The first three bytes are read both ways, over bytes and as new ones.  Where the pages do not
close, a write ends with the buffer destroyed, and with eight zeros. -/
theorem accesses_to_five_bytes :
    twoBytesWritten.slots.get? 0 = some ⟨some ⟨1, 5, 8, 8, .noAccess⟩⟩ ∧
    pagesOpenOnce.slots.get? 0 = some ⟨some ⟨1, 5, 8, 8, .noAccess⟩⟩ ∧
    (∃ m' r, ((⟨some ⟨1, 5, 8, 8, .noAccess⟩⟩ : SealedBuffer).readInto
        (twoBytesWritten.kind.platform 8) [255, 255, 255]).run twoBytesWritten.machine =
          ((r.bytes.take 3, ⟨.ok (), ⟨some ⟨1, 5, 8, 8, .noAccess⟩⟩⟩), m') ∧
      r.bytes.take 3 = [7, 8, 0] ∧ twoBytesWritten.machine.memory.find? 1 = some r ∧
      m'.memory.find? 1 = some r) ∧
    (∃ m' r, ((⟨some ⟨1, 5, 8, 8, .noAccess⟩⟩ : SealedBuffer).read
        (twoBytesWritten.kind.platform 8) 3).run twoBytesWritten.machine =
          (⟨.ok (r.bytes.take 3), ⟨some ⟨1, 5, 8, 8, .noAccess⟩⟩⟩, m') ∧
      twoBytesWritten.machine.memory.find? 1 = some r ∧ m'.memory.find? 1 = some r) ∧
    ∃ m' r, ((⟨some ⟨1, 5, 8, 8, .noAccess⟩⟩ : SealedBuffer).write
        (pagesOpenOnce.kind.platform 8) [1, 2, 3]).run pagesOpenOnce.machine =
          (⟨.error .protectFailed, .destroyed⟩, m') ∧
      m'.memory.find? 1 = some r ∧ r.live = false ∧ r.bytes.length = 8 ∧ r.IsZero := by
  obtain ⟨-, hreadInto, hread⟩ := accesses_end twoBytesWritten 0 _ rfl 8
  obtain ⟨hwrite, -, -⟩ := accesses_end pagesOpenOnce 0 _ rfl 8
  have hfound : twoBytesWritten.machine.memory.find? 1 =
      some ⟨8, [7, 8, 0, 0, 0, 0, 0, 0], .noAccess, true, true⟩ := rfl
  refine ⟨rfl, rfl, ?_, ?_, ?_⟩
  · obtain ⟨copy, ⟨result, b'⟩, new, m', hrun, -, haccessed⟩ := hreadInto [255, 255, 255]
    obtain ⟨rfl, rfl⟩ : result = .ok () ∧ b' = ⟨some ⟨1, 5, 8, 8, .noAccess⟩⟩ :=
      SealedBuffer.Outcome.mk.inj (Prod.mk.inj (Prod.mk.inj hrun).1).2.symm
    generalize twoBytesWritten.view.calls new = calls at haccessed
    cases haccessed with
    | finished hb hcount hcalls hbefore hfits hafter hothers =>
        cases hb
        obtain rfl := Option.some.inj (hfound.symm.trans hbefore)
        exact ⟨m', _, hrun, rfl, hfound, hafter⟩
  · obtain ⟨⟨result, b'⟩, new, m', hrun, -, haccessed⟩ := hread 3
    have hok : result = .ok [7, 8, 0] :=
      (SealedBuffer.Outcome.mk.inj (Prod.mk.inj hrun).1).1.symm
    generalize twoBytesWritten.view.calls new = calls at haccessed
    cases haccessed with
    | finished hb hcount hcalls hbefore hfits hafter hothers =>
        cases hb
        exact ⟨m', _, hrun, hbefore, hafter⟩
    | _ => cases hok
  · obtain ⟨o, new, m', hrun, -, haccessed⟩ := hwrite [1, 2, 3]
    have ho : o = ⟨.error .protectFailed, .destroyed⟩ := (Prod.mk.inj hrun).1.symm
    subst ho
    generalize pagesOpenOnce.view.calls new = calls at haccessed
    cases haccessed with
    | broken hb hcount hcalls hafter hfreed hlength hzero =>
        cases hb
        exact ⟨m', _, hrun, hafter, hfreed, hlength, hzero⟩

end Scenario

end SealedPages
