/-
  SealedPages.Proofs.Accounts
  ───────────────────────────
  **EVERY REGION IS HANDED BACK ONCE, OR ACCOUNTED FOR.**  When a script has ended, its
  buffers have been destroyed in one way or another: by a step, by making room for a new
  buffer, by an access that could not close its pages, or at the end.  Each region that was
  made has then been handed back exactly once, or it has leaked; and it has leaked only
  because its destruction could not open its pages.

  Whether a region was handed back can be read off the last change of its protection that
  was tried: it leaked exactly if this was an opening, and refused.

  Main statements:
    * `returned_le_handingBack`, `givenUp_le_handingBack` — how often a life hands back;
    * `returned_le_settled` — the last change of protection in a life that hands back;
    * `Scenario.regions_accounted_for` — the account of all regions of a scenario.
-/
import SealedPages.Proofs.Denials

namespace SealedPages

open Computability

variable {v : View} {j : RegionId} {L page : UInt64}

/-! ## §1. Counting calls in words. -/

/-- Whether an event hands a region back. -/
def Event.handsBack (e : Event) : Bool :=
  e.residue?.isSome

/-- Whether an event is an attempt to change the protection of pages. -/
def Event.protects : Event → Bool
  | .system (.mprotect ..) => true
  | .service (.protect ..) => true
  | _ => false

/-- Words with `k` calls of a kind. -/
def counting (f : Event → Bool) (k : Nat) : Language Event :=
  {word | word.countP f = k}

section Counting

variable {f : Event → Bool} {k : Nat} {l l' : Language Event}

/-- Nothing counts in the first word, and all that counts is in the second one. -/
theorem mul_le_counting (h : l ≤ counting f 0) (h' : l' ≤ counting f k) :
    l * l' ≤ counting f k := by
  intro word hword
  obtain ⟨a, ha, b, hb, rfl⟩ := hword
  show (a ++ b).countP f = k
  rw [List.countP_append, h ha, h' hb, Nat.zero_add]

theorem kstar_le_counting (h : l ≤ counting f 0) : l∗ ≤ counting f 0 := by
  intro word hword
  obtain ⟨words, rfl, hwords⟩ := hword
  refine List.countP_eq_zero.2 fun e he => ?_
  obtain ⟨word, hword, hmem⟩ := List.mem_flatten.1 he
  exact List.countP_eq_zero.1 (h (hwords word hword)) e hmem

/-- A single call that does not count. -/
theorem singleton_le_counting {e : Event} (he : f e = false) :
    ({[e]} : Language Event) ≤ counting f 0 := by
  intro word hword
  cases hword
  show [e].countP f = 0
  rw [List.countP_singleton, he, if_neg Bool.false_ne_true]

theorem eitherWay_le_counting {call : Verdict → Event} (h : ∀ out, f (call out) = false) :
    eitherWay call ≤ counting f 0 := by
  intro word hword
  obtain ⟨out, rfl⟩ := hword
  exact singleton_le_counting (h out) rfl

/-- Where only handing back and protection can count, another call does not. -/
theorem eq_false_of_counts (hf : ∀ e : Event, f e = true → e.handsBack = true ∨ e.protects = true)
    {e : Event} (hback : e.handsBack = false) (hprotect : e.protects = false) : f e = false := by
  cases he : f e with
  | false => rfl
  | true =>
      rcases hf e he with h | h
      · cases hback.symm.trans h
      · cases hprotect.symm.trans h

variable (hf : ∀ e : Event, f e = true → e.handsBack = true ∨ e.protects = true)

include hf

theorem allocate_le_counting : (v.spelling j L).allocate page ≤ counting f 0 := by
  cases v <;> exact singleton_le_counting (eq_false_of_counts hf rfl rfl)

theorem wipe_le_counting : (v.spelling j L).wipe ≤ counting f 0 := by
  cases v with
  | systemCalls =>
      intro word hword
      rw [show word = [] from hword]
      rfl
  | serviceCalls => exact singleton_le_counting (eq_false_of_counts hf rfl rfl)

theorem lock_le_counting (out : Verdict) : (v.spelling j L).lock out ≤ counting f 0 := by
  cases v with
  | systemCalls =>
      cases out with
      | granted =>
          exact mul_le_counting (singleton_le_counting (eq_false_of_counts hf rfl rfl))
            (eitherWay_le_counting fun _ => eq_false_of_counts hf rfl rfl)
      | refused => exact singleton_le_counting (eq_false_of_counts hf rfl rfl)
  | serviceCalls => exact singleton_le_counting (eq_false_of_counts hf rfl rfl)

theorem unlock_le_counting : (v.spelling j L).unlock ≤ counting f 0 := by
  cases v with
  | systemCalls =>
      exact mul_le_counting (eitherWay_le_counting fun _ => eq_false_of_counts hf rfl rfl)
        (eitherWay_le_counting fun _ => eq_false_of_counts hf rfl rfl)
  | serviceCalls => exact eitherWay_le_counting fun _ => eq_false_of_counts hf rfl rfl

end Counting

/-! ## §2. How often a life hands its region back. -/

/-- Words that hand regions back `k` times. -/
abbrev handingBack (k : Nat) : Language Event :=
  counting Event.handsBack k

theorem release_le_handingBack : (v.spelling j L).release ≤ handingBack 1 := by
  intro word hword
  cases v <;> obtain ⟨k, rfl⟩ := hword <;> rfl

theorem protect_le_handingBack (mode : Protection) (out : Verdict) :
    (v.spelling j L).protect mode out ≤ handingBack 0 := by
  cases v <;> exact singleton_le_counting rfl

theorem resting_le_handingBack : (v.spelling j L).resting page ≤ handingBack 0 := by
  have haccess : (v.spelling j L).access ≤ handingBack 0 :=
    sup_le (protect_le_handingBack _ _)
      (mul_le_counting (protect_le_handingBack _ _) (protect_le_handingBack _ _))
  have hopening : (v.spelling j L).opening page ≤ handingBack 0 :=
    mul_le_counting (mul_le_counting (mul_le_counting (allocate_le_counting fun _ => Or.inl)
      (wipe_le_counting fun _ => Or.inl)) (lock_le_counting (fun _ => Or.inl) _))
      (protect_le_handingBack _ _)
  exact mul_le_counting hopening (kstar_le_counting haccess)

theorem erasing_le_handingBack : (v.spelling j L).erasing ≤ handingBack 1 :=
  mul_le_counting (mul_le_counting (wipe_le_counting fun _ => Or.inl)
    (unlock_le_counting fun _ => Or.inl)) release_le_handingBack

/-- **A life that ends with the region handed back does so once.** -/
theorem returned_le_handingBack : (v.spelling j L).returned page ≤ handingBack 1 := by
  have hwiped : (v.spelling j L).allocate page * (v.spelling j L).wipe ≤ handingBack 0 :=
    mul_le_counting (allocate_le_counting fun _ => Or.inl) (wipe_le_counting fun _ => Or.inl)
  have hlocked : ∀ out, (v.spelling j L).allocate page * (v.spelling j L).wipe *
      (v.spelling j L).lock out ≤ handingBack 0 := fun out =>
    mul_le_counting hwiped (lock_le_counting (fun _ => Or.inl) out)
  -- one summand for each way to get there
  refine sup_le (sup_le (sup_le ?_ ?_) ?_) ?_
  · exact mul_le_counting (hlocked _) release_le_handingBack
  · exact mul_le_counting (mul_le_counting (hlocked _) (protect_le_handingBack _ _))
      (mul_le_counting (unlock_le_counting fun _ => Or.inl) release_le_handingBack)
  · exact mul_le_counting resting_le_handingBack
      (mul_le_counting (protect_le_handingBack _ _) erasing_le_handingBack)
  · exact mul_le_counting resting_le_handingBack
      (mul_le_counting (mul_le_counting (protect_le_handingBack _ _) (protect_le_handingBack _ _))
        erasing_le_handingBack)

/-- **A life that ends with the region given up never does.** -/
theorem givenUp_le_handingBack : (v.spelling j L).givenUp page ≤ handingBack 0 :=
  mul_le_counting resting_le_handingBack (protect_le_handingBack _ _)

/-! ## §3. The last change of protection. -/

/-- The last attempt in a word to change the protection. -/
def lastProtection? (word : List Event) : Option Event :=
  (word.filter Event.protects).getLast?

/-- Words whose last change of protection is no refused opening. -/
def settled : Language Event :=
  {word | ∀ e, lastProtection? word = some e → e.denied? = none}

/-- What follows the last change of protection does not matter. -/
theorem lastProtection?_append {x y : List Event} {e : Event} (he : e.protects = true)
    (hy : y ∈ counting Event.protects 0) : lastProtection? (x ++ ([e] ++ y)) = some e := by
  have hnone : y.filter Event.protects = [] := by
    refine List.filter_eq_nil_iff.2 ?_
    exact List.countP_eq_zero.1 hy
  unfold lastProtection?
  rw [List.filter_append, List.filter_append, hnone, List.append_nil,
    List.filter_cons_of_pos (by exact he), List.filter_nil, List.getLast?_concat]

/-- A word that ends with a change of protection, and with calls of other kinds. -/
theorem mul_le_settled {l l' : Language Event} {e : Event} (he : e.protects = true)
    (hd : e.denied? = none) (hl' : l' ≤ counting Event.protects 0) : l * ({[e]} * l') ≤ settled := by
  intro word hword
  obtain ⟨x, _, rest, ⟨_, rfl, y, hy, rfl⟩, rfl⟩ := hword
  intro e' he'
  have hlast := lastProtection?_append (x := x) he (hl' hy)
  cases hlast.symm.trans he'
  exact hd

theorem release_le_counting_protects : (v.spelling j L).release ≤ counting Event.protects 0 := by
  intro word hword
  cases v <;> obtain ⟨k, rfl⟩ := hword <;> rfl

theorem erasing_le_counting_protects : (v.spelling j L).erasing ≤ counting Event.protects 0 :=
  mul_le_counting (mul_le_counting (wipe_le_counting fun _ => Or.inr)
    (unlock_le_counting fun _ => Or.inr)) release_le_counting_protects

/-- A change of protection that is no refused opening. -/
theorem protect_eq_of_settled (v : View) (j : RegionId) (L : UInt64) {mode : Protection}
    {out : Verdict} (h : mode = .noAccess ∨ out = .granted) :
    ∃ e, (v.spelling j L).protect mode out = {[e]} ∧ e.protects = true ∧ e.denied? = none := by
  rcases h with rfl | rfl
  · cases v <;> exact ⟨_, rfl, rfl, rfl⟩
  · cases v <;> cases mode <;> exact ⟨_, rfl, rfl, rfl⟩

/-- **A life that ends with the region handed back had its pages opened at last**, or closed,
or never had their protection changed. -/
theorem returned_le_settled : (v.spelling j L).returned page ≤ settled := by
  obtain ⟨close, hclose, hc, hcd⟩ :
      ∃ e, (v.spelling j L).protect .noAccess .refused = {[e]} ∧ e.protects = true ∧
        e.denied? = none := protect_eq_of_settled v j L (Or.inl rfl)
  obtain ⟨grant, hgrant, hg, hgd⟩ :
      ∃ e, (v.spelling j L).protect .readWrite .granted = {[e]} ∧ e.protects = true ∧
        e.denied? = none := protect_eq_of_settled v j L (Or.inr rfl)
  refine sup_le (sup_le (sup_le ?_ ?_) ?_) ?_
  · -- pages that could not be pinned
    have hnone : (v.spelling j L).allocate page * (v.spelling j L).wipe *
        (v.spelling j L).lock .refused * (v.spelling j L).release ≤ counting Event.protects 0 :=
      mul_le_counting (mul_le_counting (mul_le_counting (allocate_le_counting fun _ => Or.inr)
        (wipe_le_counting fun _ => Or.inr)) (lock_le_counting (fun _ => Or.inr) _))
        release_le_counting_protects
    intro word hword e he
    have hnil : word.filter Event.protects = [] :=
      List.filter_eq_nil_iff.2 (List.countP_eq_zero.1 (hnone hword))
    unfold lastProtection? at he
    rw [hnil] at he
    cases he
  · -- pages that could not be closed
    rw [hclose, mul_assoc]
    exact mul_le_settled hc hcd
      (mul_le_counting (unlock_le_counting fun _ => Or.inr) release_le_counting_protects)
  · -- pages that were opened to be wiped
    rw [hgrant]
    exact mul_le_settled hg hgd erasing_le_counting_protects
  · -- pages that an access could not close
    rw [hclose, mul_assoc _ _ (Spelling.erasing _), ← mul_assoc]
    exact mul_le_settled hc hcd erasing_le_counting_protects

/-- The last change of protection of pages that are given up is a refused opening. -/
theorem lastProtection?_of_mem_givenUp {word : List Event}
    (h : word ∈ (v.spelling j L).givenUp page) :
    lastProtection? word = some (v.opening j L .refused) := by
  unfold Spelling.givenUp at h
  rw [protect_readWrite_eq] at h
  obtain ⟨front, _, last, rfl, rfl⟩ := h
  have hprotects : (v.opening j L .refused).protects = true := by
    cases v <;> rfl
  exact lastProtection?_append (y := []) hprotects rfl

/-! ## §4. The account of a scenario. -/

namespace Scenario

variable (σ : Scenario)

/-- How often a region is handed back. -/
def handBacks (id : RegionId) : Nat :=
  (σ.view.callsOn id σ.trace).countP Event.handsBack

/-- The last attempt of a run to change the protection of a region. -/
def lastProtection? (id : RegionId) : Option Event :=
  SealedPages.lastProtection? (σ.view.callsOn id σ.trace)

/-- **A region of `L` bytes whose destruction was refused.**  The last attempt to change its
protection is a refused opening, and no call comes after it.  It was the destruction of
the region's buffer that made this attempt: the refused openings of the region have their
lines in the log, in order, and the last line alone is that of a destruction. -/
structure DestructionRefused (id : RegionId) (L : UInt64) : Prop where
  length : ∃ r, σ.last.memory.find? id = some r ∧ r.bytes.length = L.toNat
  protection : σ.lastProtection? id = some (σ.view.opening id L .refused)
  last : (σ.view.callsOn id σ.trace).getLast? = some (σ.view.opening id L .refused)
  destruction : ∃ n, σ.view.denials id σ.trace = n + 1 ∧
    denialLines id σ.log = List.replicate n (.grantRefused id) ++ [.abandoned id L]

/-- **What became of a region**: it was handed back, or its destruction was refused. -/
theorem fate {id : RegionId} {r : Region} (hr : σ.last.memory.find? id = some r) :
    (r.live = false ∧ σ.handBacks id = 1 ∧
      ∀ e, σ.lastProtection? id = some e → e.denied? = none) ∨
    (r.live = true ∧ σ.handBacks id = 0 ∧ ∃ L, σ.DestructionRefused id L) := by
  -- after the end nobody holds the region
  have hloose := σ.custody_last.loose id (by simp)
  have hregion : (σ.last.story id).region = some r := hr
  generalize hs : σ.last.story id = s at hloose hregion
  have hcalls : σ.view.callsOn id σ.trace = s.events.filter σ.view.shows := by
    rw [← hs, σ.trace_eq]
    rfl
  have hgiven : abandonments id σ.last.log = s.abandoned := congrArg Story.abandoned hs
  cases hloose with
  | unmade => cases hregion
  | released region freed zero rounded calls kept =>
      cases hregion.symm.trans region
      rw [← hcalls] at calls
      exact Or.inl ⟨freed, returned_le_handingBack calls, returned_le_settled calls⟩
  | givenUp region resting rounded calls abandoned =>
      cases hregion.symm.trans region
      rw [← hcalls] at calls
      rw [abandoned] at hgiven
      obtain ⟨n, hcount, hlines⟩ := σ.tallied_last id
      rw [hgiven, ← σ.trace_eq] at hcount
      rw [hgiven, ← σ.log_eq] at hlines
      exact Or.inr ⟨resting.live, givenUp_le_handingBack calls, _, ⟨r, hr, resting.length⟩,
        lastProtection?_of_mem_givenUp calls, getLast?_of_mem_givenUp calls, n, hcount, hlines⟩

/-- A region that was handed back has not leaked. -/
theorem notMem_leaked {id : RegionId} {r : Region} (hr : σ.last.memory.find? id = some r)
    (hfreed : r.live = false) : id ∉ σ.leaked := by
  intro hmem
  obtain ⟨r', hr', hlive⟩ := (σ.mem_leaked id).1 hmem
  cases hr.symm.trans hr'
  cases hfreed.symm.trans hlive

/-- What has leaked could not be destroyed. -/
theorem destructionRefused_of_mem_leaked {id : RegionId} (hmem : id ∈ σ.leaked) :
    ∃ L, σ.DestructionRefused id L := by
  obtain ⟨r, hr, hlive⟩ := (σ.mem_leaked id).1 hmem
  rcases σ.fate hr with ⟨hfreed, _⟩ | ⟨_, _, hrefused⟩
  · cases hfreed.symm.trans hlive
  · exact hrefused

/-- A region that a call names was made. -/
theorem exists_region_of_call {id : RegionId} {e : Event} (he : e ∈ σ.view.callsOn id σ.trace) :
    ∃ r, σ.last.memory.find? id = some r := by
  obtain ⟨hevent, hregion⟩ := List.mem_filter.1 (List.mem_of_mem_filter he)
  obtain ⟨x, hx, rfl⟩ := List.mem_map.1 hevent
  rw [σ.trace_eq] at hx
  exact σ.custody_last.exists_region_of_event hx (eq_of_beq hregion)

/-- **A last opening that is refused is the end of a region.** -/
theorem mem_leaked_of_denied {id : RegionId} {e : Event} (he : σ.lastProtection? id = some e)
    (hd : e.denied? = some id) : id ∈ σ.leaked := by
  have hcall : e ∈ σ.view.callsOn id σ.trace :=
    List.mem_of_mem_filter (List.mem_of_getLast? he)
  obtain ⟨r, hr⟩ := σ.exists_region_of_call hcall
  rcases σ.fate hr with ⟨_, _, hsettled⟩ | ⟨hlive, _⟩
  · -- a region that was handed back had its pages opened or closed at last
    cases (hsettled e he).symm.trans hd
  · exact (σ.mem_leaked id).2 ⟨r, hr, hlive⟩

/-- **The account of all regions.**  Every region that was made is handed back exactly once
and has not leaked, or is never handed back and has leaked.  It has leaked exactly if its
destruction was refused, and exactly if the last attempt to change its protection is a
refused opening, whoever made it.  So nothing leaks where no opening is refused, and a
region whose refused openings are all those of accesses is handed back. -/
theorem regions_accounted_for :
    (∀ id r, σ.last.memory.find? id = some r →
      σ.handBacks id = 1 ∧ id ∉ σ.leaked ∨ σ.handBacks id = 0 ∧ id ∈ σ.leaked) ∧
    (∀ id, id ∈ σ.leaked ↔ ∃ L, σ.DestructionRefused id L) ∧
    (∀ id, id ∈ σ.leaked ↔ ∃ e, σ.lastProtection? id = some e ∧ e.denied? = some id) ∧
    ((∀ x ∈ σ.trace, σ.view.shows x.event = true → x.event.denied? = none) → σ.leaked = []) ∧
    ∀ id r, σ.last.memory.find? id = some r →
      (∀ line ∈ denialLines id σ.log, line = .grantRefused id) →
      σ.handBacks id = 1 ∧ id ∉ σ.leaked := by
  refine ⟨?_, ?_, ?_, ?_, ?_⟩
  · intro id r hr
    rcases σ.fate hr with ⟨hfreed, hback, _⟩ | ⟨hlive, hback, _⟩
    · exact Or.inl ⟨hback, σ.notMem_leaked hr hfreed⟩
    · exact Or.inr ⟨hback, (σ.mem_leaked id).2 ⟨r, hr, hlive⟩⟩
  · intro id
    refine ⟨σ.destructionRefused_of_mem_leaked, fun h => ?_⟩
    obtain ⟨L, hL⟩ := h
    exact σ.mem_leaked_of_denied hL.protection (View.denied?_opening _ _ _)
  · intro id
    constructor
    · intro hmem
      obtain ⟨L, hL⟩ := σ.destructionRefused_of_mem_leaked hmem
      exact ⟨_, hL.protection, View.denied?_opening _ _ _⟩
    · intro h
      obtain ⟨e, he, hd⟩ := h
      exact σ.mem_leaked_of_denied he hd
  · -- what has leaked has a refused opening among its calls
    intro hnone
    refine List.eq_nil_iff_forall_not_mem.2 fun id hmem => ?_
    obtain ⟨L, hL⟩ := σ.destructionRefused_of_mem_leaked hmem
    obtain ⟨hevents, hshown⟩ := List.mem_filter.1 (List.mem_of_getLast? hL.last)
    obtain ⟨x, hx, hevent⟩ := List.mem_map.1 (List.mem_of_mem_filter hevents)
    have hdenied := hnone x hx (hevent ▸ hshown)
    rw [hevent, View.denied?_opening] at hdenied
    cases hdenied
  · -- what has leaked has the line of a destruction as well
    intro id r hr hlines
    rcases σ.fate hr with ⟨hfreed, hback, _⟩ | ⟨_, _, L, hL⟩
    · exact ⟨hback, σ.notMem_leaked hr hfreed⟩
    · obtain ⟨n, _, hlog⟩ := hL.destruction
      have habandoned := hlines (.abandoned id L) (by rw [hlog]; simp)
      cases habandoned

/-- An access whose pages do not open leaves them to be opened, wiped and handed back later. -/
example :
    let σ := buffers .system 0 [⟨0, .create 5⟩, ⟨0, .fault .mprotect [1]⟩, ⟨0, .use (.write [1])⟩]
    σ.view.denials 1 σ.trace = 1 ∧ denialLines 1 σ.log = [.grantRefused 1] ∧ σ.handBacks 1 = 1 ∧
      σ.leaked = [] :=
  ⟨rfl, rfl, rfl, rfl⟩

/-- The same refusal at the end of the script is that of a destruction. -/
example :
    let σ := buffers .system 0 [⟨0, .create 5⟩, ⟨0, .fault .mprotect [1]⟩]
    σ.view.denials 1 σ.trace = 1 ∧ denialLines 1 σ.log = [.abandoned 1 4096] ∧
      σ.handBacks 1 = 0 ∧ σ.leaked = [1] :=
  ⟨rfl, rfl, rfl, rfl⟩

end Scenario

end SealedPages
