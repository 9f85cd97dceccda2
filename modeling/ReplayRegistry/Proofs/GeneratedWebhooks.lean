import Mathlib.Data.List.Duplicate
import Mathlib.Data.List.Induction
import ReplayRegistry.Proofs.Digits
import ReplayRegistry.Proofs.WebhookRules

/-!
# Proofs: generated webhooks

The subscription of a generated webhook is written without marks between its parts: a fixed word, a
token, and the reading of a clock. The first two have a fixed length, so the parts can be told
apart, and webhooks of different tokens or readings have different subscriptions. Generated webhooks
form a set as long as none is taken twice.
-/

namespace ReplayRegistry

open Time (Timestamp)
open Validation

theorem Bytes.length_hex (b : Bytes) : b.hex.toList.length = 2 * b.length := by
  rw [hex, String.toList_ofList]
  induction b with
  | nil => rfl
  | cons x b ih =>
    rw [List.flatMap_cons, List.length_append, ih, List.length_cons]
    simp only [List.length_cons, List.length_nil]
    omega

/-- A generated subscription tells its token and its reading of the clock. -/
theorem generatedSubscription_injective {token token' : Token} {nanos nanos' : Nat}
    (h : generatedSubscription token nanos = generatedSubscription token' nanos') :
    token = token' ∧ nanos = nanos' := by
  have hchars := congrArg String.toList h
  simp only [generatedSubscription, String.toList_append, String.toList_ofList,
    List.append_assoc] at hchars
  have hrest := List.append_cancel_left hchars
  have hlength : token.bytes.hex.toList.length = token'.bytes.hex.toList.length := by
    rw [Bytes.length_hex, Bytes.length_hex, token.length_eq, token'.length_eq]
  obtain ⟨hhex, hdigits⟩ := List.append_inj hrest hlength
  have hbytes := Bytes.hex_injective (String.toList_injective hhex)
  cases token
  cases token'
  cases hbytes
  exact ⟨rfl, toDigits_ten_injective hdigits⟩

theorem blank_generatedSubscription (token : Token) (nanos : Nat) :
    Text.blank (generatedSubscription token nanos) = false := by
  have hfirst : Text.isBlank 'N' = false := by decide
  exact Text.blank_eq_false_iff.2 ⟨'N', by simp [generatedSubscription, nonResumable], hfirst⟩

/-! ## One webhook -/

/-- What a webhook is generated from. -/
structure WebhookDoc.Origin where
  url : String
  /-- The token that has been drawn for it. -/
  token : Token
  /-- The nanoseconds since 1970 that the clock has shown. -/
  nanos : Nat
  now : Timestamp

namespace WebhookDoc.Origin

def webhook (o : Origin) : WebhookDoc := .generate o.url o.token o.nanos o.now

/-- Two webhooks are generated at different readings of the clock or with different tokens. -/
def Distinct (o o' : Origin) : Prop := (o.token, o.nanos) ≠ (o'.token, o'.nanos)

variable {o o' : Origin} {os : List Origin}

theorem exclusive_webhook (o : Origin) : Exclusive o.webhook := by
  show SubscriptionType.parse? SubscriptionType.exclusive.word = some .exclusive
  exact SubscriptionType.parse?_word _

theorem inOrder_webhook_iff : InOrder o.webhook ↔ isUrl o.url = true := by
  constructor
  · exact fun h => h.url
  · intro hurl
    refine ⟨hurl, blank_generatedSubscription _ _, ⟨_, o.exclusive_webhook⟩, .latest, ?_⟩
    show InitialPosition.parse? InitialPosition.latest.word = some .latest
    exact InitialPosition.parse?_word _

theorem Distinct.subscription_ne (h : o.Distinct o') :
    o.webhook.subscription ≠ o'.webhook.subscription := by
  intro hname
  obtain ⟨htoken, hnanos⟩ := generatedSubscription_injective hname
  exact h (Prod.ext htoken hnanos)

/-- Webhooks generated apart from each other have one subscription only if they are one. -/
theorem webhook_eq_of_subscription (hdistinct : os.Pairwise Distinct) {u w : WebhookDoc}
    (hu : u ∈ os.map webhook) (hw : w ∈ os.map webhook) (hname : u.subscription = w.subscription) :
    u = w := by
  have hnames : ((os.map webhook).map (·.subscription)).Nodup := by
    rw [List.map_map]
    exact List.pairwise_map.2 (hdistinct.imp Distinct.subscription_ne)
  exact List.inj_on_of_nodup_map hnames hu hw hname

end WebhookDoc.Origin

/-! ## Webhooks that come twice -/

/-- A list that is no set has an element at which one comes for the second time, with no element
coming twice before. -/
theorem exists_first_repeated {α : Type} {l : List α} (h : ¬ l.Nodup) :
    ∃ before x after, l = before ++ x :: after ∧ before.Nodup ∧ x ∈ before := by
  induction l using List.reverseRecOn with
  | nil => exact absurd List.nodup_nil h
  | append_singleton l x ih =>
    by_cases hl : l.Nodup
    · refine ⟨l, x, [], rfl, hl, ?_⟩
      by_contra hx
      exact h (List.nodup_append.2 ⟨hl, List.nodup_singleton x, by
        rintro a ha b hb rfl
        exact hx (List.mem_singleton.1 hb ▸ ha)⟩)
    · obtain ⟨before, y, after, rfl, hbefore, hy⟩ := ih hl
      exact ⟨before, y, after ++ [x], by simp, hbefore, hy⟩

/-- Where a webhook that claims its subscription comes again, and everything before is in order, the
check stops and names the subscription. -/
theorem webhooks_eq_error_of_repeated {before after : List WebhookDoc} {w : WebhookDoc}
    (horder : ∀ u ∈ before, InOrder u) (hpairs : before.Pairwise fun u v => ¬ Conflict u v)
    (hexclusive : Exclusive w) (hw : w ∈ before) :
    webhooks (before ++ w :: after) = .error (.duplicateExclusiveSubscription w.subscription) := by
  have hclaims : Claims [] [] := by simp [Claims]
  refine (checkWebhooks_eq_error_iff hclaims).2 ⟨before, w, after, .unclaimed, rfl, ?_, ?_, rfl⟩
  · exact noneBroken_iff.2 ⟨horder, hpairs, by simp⟩
  · refine ⟨⟨w, by simpa using hw, hexclusive, hexclusive, rfl⟩, ?_⟩
    -- by itself the webhook is in order: it has been accepted once
    have hkept : ∀ rule : Rule, ¬ rule.Broken [] w :=
      forall_not_broken_iff.2 ⟨horder w hw, by simp⟩
    intro rule hplace hbroken
    cases rule with
    | url => exact hkept .url hbroken
    | subscription => exact hkept .subscription hbroken
    | type => exact hkept .type hbroken
    | unclaimed => exact absurd hplace (Nat.lt_irrefl _)
    | position => exact absurd hplace (by decide)

namespace WebhookDoc.Origin

variable {os : List Origin}

theorem webhooks_of_repeated (hdistinct : os.Pairwise Distinct)
    (hurls : ∀ o ∈ os, isUrl o.url = true) {before after : List WebhookDoc} {w : WebhookDoc}
    (hsub : before ⊆ os.map webhook) (hbefore : before.Nodup) (hw : w ∈ before) :
    webhooks (before ++ w :: after) = .error (.duplicateExclusiveSubscription w.subscription) := by
  have hgenerated : ∀ u ∈ before, ∃ o ∈ os, o.webhook = u := fun u hu => List.mem_map.1 (hsub hu)
  refine webhooks_eq_error_of_repeated ?_ ?_ ?_ hw
  · intro u hu
    obtain ⟨o, ho, rfl⟩ := hgenerated u hu
    exact inOrder_webhook_iff.2 (hurls o ho)
  · refine hbefore.imp_of_mem ?_
    intro u v hu hv hne hconflict
    exact hne (webhook_eq_of_subscription hdistinct (hsub hu) (hsub hv) hconflict.2.2)
  · obtain ⟨o, -, rfl⟩ := hgenerated w hw
    exact o.exclusive_webhook

theorem webhooks_map_eq_ok_iff (hdistinct : os.Pairwise Distinct) :
    webhooks (os.map webhook) = .ok () ↔ ∀ o ∈ os, isUrl o.url = true := by
  have hpairs : (os.map webhook).Pairwise fun u w => ¬ Conflict u w := by
    refine List.pairwise_map.2 (hdistinct.imp ?_)
    intro o o' hne hconflict
    exact hne.subscription_ne hconflict.2.2
  rw [webhooks_eq_ok_iff, and_iff_left hpairs, List.forall_mem_map]
  simp only [inOrder_webhook_iff]

/-- Webhooks that are generated with different tokens or at different readings of the clock have
different subscriptions, and are accepted together just if each of them has a URL. If all of them
have, every list of them in which one comes twice is refused for the subscription of the first that
comes again, so that of the one that does if there is only one. -/
theorem generated_webhooks_form_set {os : List Origin} (hdistinct : os.Pairwise Distinct) :
    ((os.map webhook).map (·.subscription)).Nodup ∧
      (webhooks (os.map webhook) = .ok () ↔ ∀ o ∈ os, isUrl o.url = true) ∧
      ((∀ o ∈ os, isUrl o.url = true) → ∀ ws ⊆ os.map webhook,
        (∀ w, 2 ≤ ws.count w → (∀ u, 2 ≤ ws.count u → u = w) →
          webhooks ws = .error (.duplicateExclusiveSubscription w.subscription)) ∧
        (¬ ws.Nodup → ∃ before w after, ws = before ++ w :: after ∧ before.Nodup ∧ w ∈ before ∧
          webhooks ws = .error (.duplicateExclusiveSubscription w.subscription))) := by
  refine ⟨?_, webhooks_map_eq_ok_iff hdistinct, fun hurls ws hsub => ?_⟩
  · rw [List.map_map]
    exact List.pairwise_map.2 (hdistinct.imp Distinct.subscription_ne)
  have hrefused : ¬ ws.Nodup → ∃ before w after, ws = before ++ w :: after ∧ before.Nodup ∧
      w ∈ before ∧ webhooks ws = .error (.duplicateExclusiveSubscription w.subscription) := by
    intro hrepeated
    obtain ⟨before, w, after, rfl, hbefore, hw⟩ := exists_first_repeated hrepeated
    have hsub' : before ⊆ os.map webhook := List.Subset.trans (List.subset_append_left _ _) hsub
    exact ⟨before, w, after, rfl, hbefore, hw,
      webhooks_of_repeated hdistinct hurls hsub' hbefore hw⟩
  refine ⟨fun w htwice honly => ?_, hrefused⟩
  have hrepeated : ¬ ws.Nodup :=
    List.exists_duplicate_iff_not_nodup.1 ⟨w, List.duplicate_iff_two_le_count.2 htwice⟩
  obtain ⟨before, u, after, hws, -, hu, herror⟩ := hrefused hrepeated
  have htwice' : 2 ≤ ws.count u := by
    have hone : 1 ≤ before.count u := List.one_le_count_iff.2 hu
    rw [hws, List.count_append, List.count_cons_self]
    omega
  rw [herror, honly u htwice']

/-- Readings that begin alike, and tokens of equal digits; of three webhooks one comes twice. -/
theorem generated_webhooks_form_set_alike :
    let now : Timestamp := ⟨0, 0, by decide, by decide, by decide⟩
    let token (n : UInt8) : Token := ⟨List.replicate 16 n, List.length_replicate⟩
    let a : Origin := ⟨"a://b", token 1, 1, now⟩
    let b : Origin := ⟨"a://b", token 1, 11, now⟩
    let c : Origin := ⟨"a://c", token 17, 1, now⟩
    [a, b, c].Pairwise Distinct ∧ webhooks ([a, b, c].map webhook) = .ok () ∧
      webhooks [b.webhook, c.webhook, b.webhook] =
        .error (.duplicateExclusiveSubscription b.webhook.subscription) := by
  intro now token a b c
  have hdistinct : [a, b, c].Pairwise Distinct := by
    simp [Distinct, a, b, c, token]
  have hurls : ∀ o ∈ [a, b, c], isUrl o.url = true := by
    have hb : isUrl "a://b" = true := by decide +kernel
    have hc : isUrl "a://c" = true := by decide +kernel
    simp [a, b, c, hb, hc]
  obtain ⟨-, haccepted, hrefused⟩ := generated_webhooks_form_set hdistinct
  refine ⟨hdistinct, haccepted.2 hurls, ?_⟩
  have hbc : b.webhook ≠ c.webhook := fun h => absurd (congrArg (·.url) h) (by decide)
  refine (hrefused hurls _ (by simp)).1 b.webhook (by simp [hbc.symm]) ?_
  intro u hu
  by_contra hne
  have hcount : ([b.webhook, c.webhook, b.webhook].count u) ≤ 1 := by
    by_cases hc : u = c.webhook <;> simp [hc, hbc, Ne.symm hne, eq_comm]
  omega

end WebhookDoc.Origin

end ReplayRegistry
