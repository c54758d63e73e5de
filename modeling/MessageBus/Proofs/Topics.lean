import Mathlib.Data.List.Infix
import MessageBus.Resource.Basic

/-!
# Topics of subscriptions

A subscription is named after its topic, and the topic is read off the name again: it is what stands
before the first separator. The separator begins and ends with the same character and overlaps with
itself nowhere else. So the first separator of a name is the one that was put there unless another
one stands in the topic, or begins in the topic and ends with the slash that follows it.
-/

namespace MessageBus

section Before

variable {segment : List Char}

theorem beforeSegment_cons_of_starts {c : Char} {cs : List Char} (starts : segment <+: c :: cs) :
    beforeSegment segment (c :: cs) = [] := by
  rw [beforeSegment, if_pos (List.isPrefixOf_iff_prefix.mpr starts)]

theorem beforeSegment_cons_of_not_starts {c : Char} {cs : List Char}
    (starts : ¬segment <+: c :: cs) :
    beforeSegment segment (c :: cs) = c :: beforeSegment segment cs := by
  rw [beforeSegment, if_neg (mt List.isPrefixOf_iff_prefix.mp starts)]

theorem segment_follows_before {cs : List Char} (occurs : segment <:+: cs) :
    beforeSegment segment cs ++ segment <+: cs := by
  induction cs with
  | nil =>
    rw [List.infix_nil.mp occurs]
    exact List.prefix_rfl
  | cons c cs ih =>
    by_cases starts : segment <+: c :: cs
    · rwa [beforeSegment_cons_of_starts starts]
    · rw [beforeSegment_cons_of_not_starts starts, List.cons_append]
      exact (List.prefix_cons_inj c).mpr (ih ((List.infix_cons_iff.mp occurs).resolve_left starts))

end Before

theorem separator_eq : subscriptionsSegment.toList = '/' :: "Subscriptions/".toList := rfl

theorem separator_apart : ∀ n < 14, 0 < n →
    ¬subscriptionsSegment.toList.drop n <+: subscriptionsSegment.toList := by
  decide

/-- A separator that begins before another one ends with the first character of that one. -/
theorem starts_before_separator_iff {before : List Char} (nonempty : before ≠ [])
    (rest : List Char) :
    subscriptionsSegment.toList <+: before ++ (subscriptionsSegment.toList ++ rest) ↔
      subscriptionsSegment.toList <+: before ++ ['/'] := by
  have slash : before ++ ['/'] <+: before ++ (subscriptionsSegment.toList ++ rest) := by
    rw [List.prefix_append_right_inj, separator_eq]
    exact List.prefix_append ['/'] _
  refine ⟨fun starts => ?_, fun starts => starts.trans slash⟩
  refine List.prefix_of_prefix_length_le starts slash ?_
  have long : subscriptionsSegment.toList.length = 15 := rfl
  -- A shorter beginning would leave an end of the separator at the beginning of the other one.
  by_contra short
  rw [List.length_append, List.length_singleton, long] at short
  refine separator_apart before.length (by omega) (List.length_pos_iff.mpr nonempty) ?_
  have behind := starts.drop before.length
  rw [List.drop_left] at behind
  refine List.prefix_of_prefix_length_le behind (List.prefix_append _ rest) ?_
  rw [List.length_drop]
  omega

theorem beforeSegment_separator (topic rest : List Char) :
    beforeSegment subscriptionsSegment.toList (topic ++ (subscriptionsSegment.toList ++ rest)) =
      if subscriptionsSegment.toList <:+: topic ++ ['/'] then
        beforeSegment subscriptionsSegment.toList (topic ++ ['/'])
      else topic := by
  induction topic with
  | nil => rfl
  | cons c topic ih =>
    have same := starts_before_separator_iff (List.cons_ne_nil c topic) rest
    simp only [List.cons_append, List.infix_cons_iff] at same ⊢
    by_cases starts : subscriptionsSegment.toList <+: c :: (topic ++ ['/'])
    · rw [beforeSegment_cons_of_starts (same.mpr starts), if_pos (.inl starts),
        beforeSegment_cons_of_starts starts]
    · rw [beforeSegment_cons_of_not_starts (mt same.mp starts), ih,
        beforeSegment_cons_of_not_starts starts, apply_ite (c :: ·)]
      simp only [starts, false_or]

def HasSeparator (name : String) : Prop :=
  subscriptionsSegment.toList <:+: name.toList

instance (name : String) : Decidable (HasSeparator name) :=
  inferInstanceAs (Decidable (_ <:+: _))

theorem topicOf_toList (name : String) :
    (topicOf name).toList = beforeSegment subscriptionsSegment.toList name.toList :=
  String.toList_ofList

theorem length_topicOf {name : String} (separated : HasSeparator name) :
    (topicOf name).toList.length + 15 ≤ name.toList.length := by
  have before := (segment_follows_before separated).length_le
  rwa [List.length_append, ← topicOf_toList] at before

theorem hasSeparator_of_ending (start : String) :
    HasSeparator (start ++ "/Subscriptions" ++ "/") := by
  rw [HasSeparator, String.toList_append, String.toList_append, List.append_assoc]
  exact List.infix_append_right

theorem topicOf_subscription (topic name : String) :
    topicOf (Resource.subscription topic name).id =
      if HasSeparator (topic ++ "/") then topicOf (topic ++ "/") else topic := by
  have joined : (Resource.subscription topic name).id.toList =
      topic.toList ++ (subscriptionsSegment.toList ++ name.toList) := by
    simp only [Resource.subscription, Resource.of, Resource.subscriptionPath, String.toList_append,
      List.append_assoc]
  have ending : (topic ++ "/").toList = topic.toList ++ ['/'] := String.toList_append
  rw [topicOf, joined, beforeSegment_separator]
  by_cases separated : HasSeparator (topic ++ "/")
  · rw [if_pos separated, if_pos (ending ▸ separated), topicOf, ending]
  · rw [if_neg separated, if_neg (ending ▸ separated), String.ofList_toList]

theorem topicOf_subscription_eq_iff (topic name : String) :
    topicOf (Resource.subscription topic name).id = topic ↔ ¬HasSeparator (topic ++ "/") := by
  rw [topicOf_subscription]
  split
  · next separated =>
    refine iff_of_false (fun same => ?_) (not_not_intro separated)
    have shorter := length_topicOf separated
    have slash : "/".toList.length = 1 := rfl
    rw [same, String.toList_append, List.length_append, slash] at shorter
    omega
  · next plain => exact iff_of_true rfl plain

example : topicOf (Resource.subscription "sales/Subscriptions" "billing").id = "sales" := by decide

namespace Resource

theorem rerouteTarget_eq (r : Resource) :
    r.rerouteTarget.kind = (if r.kind = .subscription then .topic else r.kind) ∧
      r.rerouteTarget.entity = (if r.kind = .subscription then topicOf r.entity else r.entity) ∧
      r.rerouteTarget.connection = r.connection := by
  obtain ⟨kind, id, entity, connection⟩ := r
  cases kind <;> exact ⟨rfl, rfl, rfl⟩

theorem rerouteTarget_sendable (r : Resource) : r.rerouteTarget.kind ≠ .subscription := by
  rw [(rerouteTarget_eq r).1]
  split
  · simp
  · assumption

theorem rerouteTarget_id (r : Resource) : r.rerouteTarget.id = r.rerouteTarget.entity := by
  obtain ⟨kind, id, entity, connection⟩ := r
  cases kind <;> rfl

theorem rerouteTarget_of_not_subscription {r : Resource} (kind : r.kind ≠ .subscription)
    (named : r.id = r.entity) : r.rerouteTarget = r := by
  obtain ⟨other, id, entity, connection⟩ := r
  obtain rfl : id = entity := named
  cases other with
  | subscription => exact absurd rfl kind
  | _ => rfl

end Resource

/-- The topic read off the name of a subscription is the one that it was made for exactly if the
topic, with a slash behind it, does not contain the separator; the name given to the subscription
never matters. What is received on a resource goes back to its topic if it is a subscription and to
the resource itself if not, on the same connection and whatever the resource is called inside the
process; and from there it would go nowhere else. -/
theorem topic_found_iff_unseparated :
    (∀ topic name, topicOf (Resource.subscription topic name).id = topic ↔
      ¬HasSeparator (topic ++ "/")) ∧
    (∀ topic name other, topicOf (Resource.subscription topic name).id =
      topicOf (Resource.subscription topic other).id) ∧
    (∀ start name, topicOf (Resource.subscription (start ++ "/Subscriptions") name).id ≠
      start ++ "/Subscriptions") ∧
    ∀ r : Resource,
      let target := r.rerouteTarget
      target.connection = r.connection ∧ target.id = target.entity ∧
        target.kind = (if r.kind = .subscription then .topic else r.kind) ∧
        target.entity = (if r.kind = .subscription then topicOf r.entity else r.entity) ∧
        (∀ id, { r with id := id }.rerouteTarget = target) ∧
        target.rerouteTarget = target := by
  refine ⟨topicOf_subscription_eq_iff, fun topic name other => ?_, fun start name same => ?_,
    fun r => ?_⟩
  · rw [topicOf_subscription, topicOf_subscription]
  · exact (topicOf_subscription_eq_iff _ name).mp same (hasSeparator_of_ending start)
  · obtain ⟨kind, entity, connection⟩ := r.rerouteTarget_eq
    exact ⟨connection, r.rerouteTarget_id, kind, entity, fun _ => rfl,
      Resource.rerouteTarget_of_not_subscription r.rerouteTarget_sendable r.rerouteTarget_id⟩

end MessageBus
