import Mathlib.Data.List.Basic
import ReplayRegistry.Validation

/-!
# Proofs: the rules for webhooks

Webhooks are checked in one pass that keeps the subscriptions claimed so far. The pass accepts just
those lists in which every webhook is in order by itself and no two of them claim one subscription,
in whatever order they stand; and it names the first rule that is broken at the first position where
any is.
-/

namespace ReplayRegistry.Validation

/-- A webhook that claims its subscription for itself. -/
def Exclusive (w : WebhookDoc) : Prop :=
  SubscriptionType.parse? w.subscriptionType = some .exclusive

/-- Two webhooks claim one subscription. -/
def Conflict (u w : WebhookDoc) : Prop :=
  Exclusive u ∧ Exclusive w ∧ u.subscription = w.subscription

/-- What is asked of a webhook by itself. -/
structure InOrder (w : WebhookDoc) : Prop where
  url : isUrl w.url = true
  subscription : Text.blank w.subscription = false
  type : ∃ t, SubscriptionType.parse? w.subscriptionType = some t
  position : ∃ p, InitialPosition.parse? w.initialPosition = some p

/-- The rules for a webhook. -/
inductive Rule where
  | url
  | subscription
  | type
  | unclaimed
  | position
deriving DecidableEq

namespace Rule

/-- The place of a rule among those checked for a webhook. -/
def place : Rule → Nat
  | url => 0
  | subscription => 1
  | type => 2
  | unclaimed => 3
  | position => 4

/-- A webhook breaks a rule, coming after others. -/
def Broken (before : List WebhookDoc) (w : WebhookDoc) : Rule → Prop
  | url => isUrl w.url = false
  | subscription => Text.blank w.subscription = true
  | type => SubscriptionType.parse? w.subscriptionType = none
  | unclaimed => ∃ u ∈ before, Conflict u w
  | position => InitialPosition.parse? w.initialPosition = none

/-- A webhook keeps the rules that are checked before place `n`. -/
def KeptBelow (n : Nat) (before : List WebhookDoc) (w : WebhookDoc) : Prop :=
  ∀ rule : Rule, rule.place < n → ¬ rule.Broken before w

/-- Of the rules that a webhook breaks, the one checked first. -/
structure First (before : List WebhookDoc) (w : WebhookDoc) (rule : Rule) : Prop where
  broken : rule.Broken before w
  kept : KeptBelow rule.place before w

/-- The error that names the value by which a webhook breaks a rule. -/
def error (w : WebhookDoc) : Rule → ValidationError
  | url => .invalidUrl w.url
  | subscription => .missingSubscription w.url
  | type => .unsupportedSubscriptionType w.subscriptionType
  | unclaimed => .duplicateExclusiveSubscription w.subscription
  | position => .invalidInitialPosition w.initialPosition

theorem place_injective {rule rule' : Rule} (h : rule.place = rule'.place) : rule = rule' := by
  cases rule <;> cases rule' <;> first | rfl | cases h

theorem keptBelow_zero (before : List WebhookDoc) (w : WebhookDoc) : KeptBelow 0 before w :=
  fun _ hlt => absurd hlt (Nat.not_lt_zero _)

theorem KeptBelow.succ {before : List WebhookDoc} {w : WebhookDoc} {rule : Rule}
    (h : KeptBelow rule.place before w) (hrule : ¬ rule.Broken before w) :
    KeptBelow (rule.place + 1) before w := by
  intro earlier hlt
  rcases Nat.lt_succ_iff_lt_or_eq.1 hlt with hlt | heq
  · exact h earlier hlt
  · rw [place_injective heq]
    exact hrule

/-- Only one of the broken rules is checked first. -/
theorem First.unique {before : List WebhookDoc} {w : WebhookDoc} {rule rule' : Rule}
    (h : First before w rule) (h' : First before w rule') : rule = rule' := by
  rcases Nat.lt_trichotomy rule.place rule'.place with hlt | heq | hgt
  · exact absurd h.broken (h'.kept rule hlt)
  · exact place_injective heq
  · exact absurd h'.broken (h.kept rule' hgt)

end Rule

/-- Along `ws`, coming after `before`, no rule is broken. -/
def NoneBroken (before ws : List WebhookDoc) : Prop :=
  ∀ earlier w later, ws = earlier ++ w :: later →
    ∀ rule : Rule, ¬ rule.Broken (before ++ earlier) w

variable {before ws : List WebhookDoc} {w : WebhookDoc} {taken : List String}

theorem noneBroken_nil (before : List WebhookDoc) : NoneBroken before [] := by
  intro earlier w later h
  exact absurd h (by simp)

theorem noneBroken_cons : NoneBroken before (w :: ws) ↔
    (∀ rule : Rule, ¬ rule.Broken before w) ∧ NoneBroken (before ++ [w]) ws := by
  constructor
  · intro h
    refine ⟨fun rule => by simpa using h [] w ws rfl rule, ?_⟩
    rintro earlier u later rfl rule
    simpa using h (w :: earlier) u later rfl rule
  · rintro ⟨hw, hws⟩ earlier u later h rule
    cases earlier with
    | nil =>
      obtain ⟨rfl, -⟩ := List.cons.inj h
      simpa using hw rule
    | cons first earlier =>
      obtain ⟨rfl, rfl⟩ := List.cons.inj h
      simpa using hws earlier u later rfl rule

/-! ## One webhook -/

/-- The names kept by the pass are the subscriptions claimed so far. -/
def Claims (taken : List String) (before : List WebhookDoc) : Prop :=
  ∀ name, name ∈ taken ↔ ∃ u ∈ before, Exclusive u ∧ u.subscription = name

theorem Claims.mem_iff (h : Claims taken before) (hw : Exclusive w) :
    w.subscription ∈ taken ↔ Rule.unclaimed.Broken before w := by
  rw [h]
  constructor
  · rintro ⟨u, hu, hexclusive, hname⟩
    exact ⟨u, hu, hexclusive, hw, hname⟩
  · rintro ⟨u, hu, hexclusive, -, hname⟩
    exact ⟨u, hu, hexclusive, hname⟩

theorem Claims.exclusive (h : Claims taken before) (hw : Exclusive w) :
    Claims (w.subscription :: taken) (before ++ [w]) := by
  intro name
  rw [List.mem_cons, h name]
  constructor
  · rintro (rfl | ⟨u, hu, hclaim⟩)
    · exact ⟨w, by simp, hw, rfl⟩
    · exact ⟨u, by simp [hu], hclaim⟩
  · rintro ⟨u, hu, hexclusive, hname⟩
    rcases List.mem_append.1 hu with hu | hu
    · exact .inr ⟨u, hu, hexclusive, hname⟩
    · obtain rfl := List.mem_singleton.1 hu
      exact .inl hname.symm

theorem Claims.not_exclusive (h : Claims taken before) (hw : ¬ Exclusive w) :
    Claims taken (before ++ [w]) := by
  intro name
  rw [h name]
  constructor
  · rintro ⟨u, hu, hclaim⟩
    exact ⟨u, by simp [hu], hclaim⟩
  · rintro ⟨u, hu, hexclusive, hname⟩
    rcases List.mem_append.1 hu with hu | hu
    · exact ⟨u, hu, hexclusive, hname⟩
    · obtain rfl := List.mem_singleton.1 hu
      exact absurd hexclusive hw

/-- What checking a webhook comes to: the first broken rule, or none and the names kept from then
on. -/
inductive Checked (before : List WebhookDoc) (w : WebhookDoc) :
    Except ValidationError (List String) → Prop
  | broken (rule : Rule) (h : rule.First before w) : Checked before w (.error (rule.error w))
  | kept {taken : List String} (h : ∀ rule : Rule, ¬ rule.Broken before w)
      (hclaims : Claims taken (before ++ [w])) : Checked before w (.ok taken)

theorem checkWebhook_checked (h : Claims taken before) (w : WebhookDoc) :
    Checked before w (checkWebhook taken w) := by
  have hnone : Rule.KeptBelow Rule.url.place before w := Rule.keptBelow_zero before w
  unfold checkWebhook subscriptionType initialPosition
  by_cases hurl : Rule.url.Broken before w
  · rw [if_pos (by simpa [Rule.Broken] using hurl)]
    exact .broken .url ⟨hurl, hnone⟩
  rw [if_neg (by simpa [Rule.Broken] using hurl)]
  have hafterUrl : Rule.KeptBelow Rule.subscription.place before w := hnone.succ hurl
  by_cases hblank : Rule.subscription.Broken before w
  · rw [if_pos (show Text.blank w.subscription = true from hblank)]
    exact .broken .subscription ⟨hblank, hafterUrl⟩
  rw [if_neg (show ¬ Text.blank w.subscription = true from hblank)]
  have hafterName : Rule.KeptBelow Rule.type.place before w := hafterUrl.succ hblank
  cases htype : SubscriptionType.parse? w.subscriptionType with
  | none => exact .broken .type ⟨htype, hafterName⟩
  | some t =>
    have hafterType : Rule.KeptBelow Rule.unclaimed.place before w :=
      hafterName.succ (show ¬ Rule.type.Broken before w by simp [Rule.Broken, htype])
    have hexclusive : t = .exclusive ↔ Exclusive w := by simp [Exclusive, htype]
    by_cases hclaimed : Rule.unclaimed.Broken before w
    · obtain ⟨u, hu, hconflict⟩ := hclaimed
      have hw : Exclusive w := hconflict.2.1
      have hmem : w.subscription ∈ taken := (h.mem_iff hw).2 ⟨u, hu, hconflict⟩
      simp only [hexclusive, hw, hmem, and_self, if_true]
      exact .broken .unclaimed ⟨⟨u, hu, hconflict⟩, hafterType⟩
    have hfree : ¬ (t = .exclusive ∧ w.subscription ∈ taken) := by
      rintro ⟨ht, hmem⟩
      exact hclaimed ((h.mem_iff (hexclusive.1 ht)).1 hmem)
    simp only [if_neg hfree]
    have hafterClaims : Rule.KeptBelow Rule.position.place before w := hafterType.succ hclaimed
    cases hposition : InitialPosition.parse? w.initialPosition with
    | none => exact .broken .position ⟨hposition, hafterClaims⟩
    | some p =>
      have hall : Rule.KeptBelow (Rule.position.place + 1) before w :=
        hafterClaims.succ (by simp [Rule.Broken, hposition])
      have hkept : ∀ rule : Rule, ¬ rule.Broken before w := by
        intro rule
        exact hall rule (by cases rule <;> decide)
      by_cases hw : Exclusive w
      · simp only [hexclusive.2 hw, if_true]
        exact .kept hkept (h.exclusive hw)
      · simp only [if_neg (not_congr hexclusive |>.2 hw)]
        exact .kept hkept (h.not_exclusive hw)

/-! ## The pass -/

theorem checkWebhooks_eq_ok_iff (h : Claims taken before) :
    checkWebhooks taken ws = .ok () ↔ NoneBroken before ws := by
  induction ws generalizing taken before with
  | nil => exact iff_of_true rfl (noneBroken_nil before)
  | cons w ws ih =>
    rw [checkWebhooks, noneBroken_cons]
    generalize hresult : checkWebhook taken w = result
    have hchecked := checkWebhook_checked h w
    rw [hresult] at hchecked
    cases hchecked with
    | broken rule hfirst =>
      refine iff_of_false (by simp) ?_
      rintro ⟨hkept, -⟩
      exact hkept rule hfirst.broken
    | kept hkept hclaims =>
      rw [and_iff_right hkept]
      exact ih hclaims

/-- The pass stops at the first position where a rule is broken. -/
theorem checkWebhooks_eq_error_iff (h : Claims taken before) {e : ValidationError} :
    checkWebhooks taken ws = .error e ↔ ∃ earlier w later rule,
      ws = earlier ++ w :: later ∧ NoneBroken before earlier ∧
        Rule.First (before ++ earlier) w rule ∧ e = rule.error w := by
  induction ws generalizing taken before with
  | nil => simp [checkWebhooks]
  | cons w ws ih =>
    rw [checkWebhooks]
    generalize hresult : checkWebhook taken w = result
    have hchecked := checkWebhook_checked h w
    rw [hresult] at hchecked
    cases hchecked with
    | broken rule hfirst =>
      constructor
      · rintro ⟨⟩
        exact ⟨[], w, ws, rule, rfl, noneBroken_nil before, by simpa using hfirst, rfl⟩
      · rintro ⟨earlier, u, later, rule', hws, hnone, hfirst', rfl⟩
        cases earlier with
        | nil =>
          obtain ⟨rfl, -⟩ := List.cons.inj hws
          rw [hfirst.unique (by simpa using hfirst')]
        | cons first earlier =>
          obtain ⟨rfl, -⟩ := List.cons.inj hws
          exact absurd hfirst.broken ((noneBroken_cons.1 hnone).1 rule)
    | kept hkept hclaims =>
      refine (ih hclaims).trans ?_
      constructor
      · rintro ⟨earlier, u, later, rule, rfl, hnone, hfirst, rfl⟩
        exact ⟨w :: earlier, u, later, rule, rfl, noneBroken_cons.2 ⟨hkept, hnone⟩,
          by simpa using hfirst, rfl⟩
      · rintro ⟨earlier, u, later, rule, hws, hnone, hfirst, rfl⟩
        cases earlier with
        | nil =>
          obtain ⟨rfl, -⟩ := List.cons.inj hws
          exact absurd hfirst.broken (by simpa using hkept rule)
        | cons first earlier =>
          obtain ⟨rfl, rfl⟩ := List.cons.inj hws
          exact ⟨earlier, u, later, rule, rfl, (noneBroken_cons.1 hnone).2,
            by simpa using hfirst, rfl⟩

/-! ## Accepted lists -/

theorem conflict_symm {u : WebhookDoc} (h : Conflict u w) : Conflict w u :=
  ⟨h.2.1, h.1, h.2.2.symm⟩

/-- A webhook breaks no rule just if it is in order by itself and in conflict with none before
it. -/
theorem forall_not_broken_iff : (∀ rule : Rule, ¬ rule.Broken before w) ↔
    InOrder w ∧ ∀ u ∈ before, ¬ Conflict u w := by
  constructor
  · intro h
    refine ⟨⟨?_, ?_, ?_, ?_⟩, fun u hu hconflict => h .unclaimed ⟨u, hu, hconflict⟩⟩
    · exact Bool.not_eq_false _ ▸ h .url
    · exact Bool.not_eq_true _ ▸ h .subscription
    · exact Option.ne_none_iff_exists'.1 (h .type)
    · exact Option.ne_none_iff_exists'.1 (h .position)
  · rintro ⟨hw, hnone⟩ rule hbroken
    cases rule with
    | url => exact absurd (hw.url.symm.trans hbroken) (by simp)
    | subscription => exact absurd (hw.subscription.symm.trans hbroken) (by simp)
    | type =>
      obtain ⟨t, ht⟩ := hw.type
      exact absurd (ht.symm.trans hbroken) (by simp)
    | unclaimed =>
      obtain ⟨u, hu, hconflict⟩ := hbroken
      exact hnone u hu hconflict
    | position =>
      obtain ⟨p, hp⟩ := hw.position
      exact absurd (hp.symm.trans hbroken) (by simp)

theorem noneBroken_iff : NoneBroken before ws ↔ (∀ w ∈ ws, InOrder w) ∧
    ws.Pairwise (fun u w => ¬ Conflict u w) ∧ ∀ u ∈ before, ∀ w ∈ ws, ¬ Conflict u w := by
  induction ws generalizing before with
  | nil => simp [noneBroken_nil]
  | cons w ws ih =>
    rw [noneBroken_cons, forall_not_broken_iff, ih, List.forall_mem_cons, List.pairwise_cons]
    simp only [List.forall_mem_append, List.forall_mem_singleton]
    constructor
    · rintro ⟨⟨hw, hbefore⟩, hws, hpairs, hbefore', hfirst⟩
      refine ⟨⟨hw, hws⟩, ⟨hfirst, hpairs⟩, fun u hu => ?_⟩
      exact List.forall_mem_cons.2 ⟨hbefore u hu, hbefore' u hu⟩
    · rintro ⟨⟨hw, hws⟩, ⟨hfirst, hpairs⟩, hbefore⟩
      have hsplit : ∀ u ∈ before, ¬ Conflict u w ∧ ∀ x ∈ ws, ¬ Conflict u x :=
        fun u hu => List.forall_mem_cons.1 (hbefore u hu)
      exact ⟨⟨hw, fun u hu => (hsplit u hu).1⟩, hws, hpairs, fun u hu => (hsplit u hu).2, hfirst⟩

/-- No two webhooks at different positions are in conflict. -/
theorem pairwise_conflict_iff : ws.Pairwise (fun u w => ¬ Conflict u w) ↔
    ∀ (i j : Nat) (hi : i < ws.length) (hj : j < ws.length), i ≠ j → ¬ Conflict ws[i] ws[j] := by
  rw [List.pairwise_iff_getElem]
  constructor
  · intro h i j hi hj hne hconflict
    rcases Nat.lt_or_gt_of_ne hne with hlt | hgt
    · exact h i j hi hj hlt hconflict
    · exact h j i hj hi hgt (conflict_symm hconflict)
  · intro h i j hi hj hlt
    exact h i j hi hj (Nat.ne_of_lt hlt)

theorem webhooks_eq_ok_iff : webhooks ws = .ok () ↔
    (∀ w ∈ ws, InOrder w) ∧ ws.Pairwise fun u w => ¬ Conflict u w := by
  have hclaims : Claims [] [] := by simp [Claims]
  rw [webhooks, checkWebhooks_eq_ok_iff hclaims, noneBroken_iff]
  simp

/-- Webhooks are accepted just if every one is in order by itself and no two at different positions
claim one subscription, whatever their order; otherwise the error names the rule that is checked
first among those broken at the first position where any is. -/
theorem webhooks_decides_rules (ws : List WebhookDoc) :
    (webhooks ws = .ok () ↔ (∀ w ∈ ws, InOrder w) ∧
      ∀ (i j : Nat) (hi : i < ws.length) (hj : j < ws.length), i ≠ j →
        ¬ Conflict ws[i] ws[j]) ∧
    (∀ ws', ws.Perm ws' → (webhooks ws = .ok () ↔ webhooks ws' = .ok ())) ∧
    ∀ e, webhooks ws = .error e ↔ ∃ earlier w later, ∃ rule : Rule, ws = earlier ++ w :: later ∧
      (∀ earlier' u later', earlier = earlier' ++ u :: later' →
        ∀ rule : Rule, ¬ rule.Broken earlier' u) ∧
      rule.Broken earlier w ∧
      (∀ rule' : Rule, rule'.place < rule.place → ¬ rule'.Broken earlier w) ∧
      e = rule.error w := by
  refine ⟨?_, ?_, ?_⟩
  · rw [webhooks_eq_ok_iff, pairwise_conflict_iff]
  · intro ws' hperm
    have hsymm : ∀ {u w : WebhookDoc}, ¬ Conflict u w → ¬ Conflict w u :=
      fun h hconflict => h (conflict_symm hconflict)
    rw [webhooks_eq_ok_iff, webhooks_eq_ok_iff, hperm.pairwise_iff hsymm]
    simp only [hperm.mem_iff]
  · intro e
    have hclaims : Claims [] [] := by simp [Claims]
    rw [webhooks, checkWebhooks_eq_error_iff hclaims]
    constructor
    · rintro ⟨earlier, w, later, rule, hws, hnone, hfirst, he⟩
      exact ⟨earlier, w, later, rule, hws, hnone, hfirst.broken, hfirst.kept, he⟩
    · rintro ⟨earlier, w, later, rule, hws, hnone, hbroken, hkept, he⟩
      exact ⟨earlier, w, later, rule, hws, hnone, ⟨hbroken, hkept⟩, he⟩

/-- Types without a word and in mixed case claim a subscription, and a shared one does not. -/
example :
    let hook (subscription type : String) : WebhookDoc :=
      { url := "a://b", subscription := subscription, subscriptionType := type }
    webhooks [hook "s" "shared", hook "s" "", hook "t" "Exclusive"] = .ok () ∧
      webhooks [hook "s" "", { hook "s" "Exclusive" with initialPosition := "middle" }] =
        .error (.duplicateExclusiveSubscription "s") := by
  decide +kernel

end ReplayRegistry.Validation
