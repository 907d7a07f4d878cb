import Lookout.Dict.Lemmas
import Lookout.Source.Memory

/-!
# Signals of the registry in memory

Whoever holds a subscription to a service learns of every change of the service's records: after it
the subscription has something unread, or the registry has let go of it, and it stays that way until
its reader comes. What readers do to their own subscriptions does not concern the others.
-/
set_option autoImplicit false

namespace Lookout

namespace Subscription

/-- Its next read gives a signal or finds the subscription closed. -/
def Alarmed (s : Subscription) : Prop := s.unread ≠ [] ∨ s.attached = false

theorem alarmed_detach (s : Subscription) : s.detach.Alarmed := Or.inr rfl

/-- A signal that does not fit finds other signals unread. -/
theorem alarmed_offer (s : Subscription) (signal : Signal) : (s.offer signal).Alarmed := by
  unfold offer
  split
  · exact Or.inl (by simp)
  · next hfull =>
    refine Or.inl ?_
    intro hnil
    rw [hnil] at hfull
    exact hfull (by decide)

end Subscription

namespace Memory

def Holds (m : Memory) (service : String) (id : SubscriptionId) (s : Subscription) : Prop :=
  m.subscriptions[id]? = some (service, s)

theorem Holds.subscription? {m : Memory} {service : String} {id : SubscriptionId}
    {s : Subscription} (h : m.Holds service id s) : m.subscription? id = some s := by
  simp only [Memory.subscription?]
  rw [h]
  rfl

theorem Holds.lt_length {m : Memory} {service : String} {id : SubscriptionId}
    {s : Subscription} (h : m.Holds service id s) : id < m.subscriptions.length :=
  (List.getElem?_eq_some_iff.1 h).1

/-! ## Records -/

theorem recordsOf_insert {m m' : Memory} {service : String} {records : List Record}
    (hinsert : m'.records = m.records.insert service records) {a : String} (ha : a ≠ service) :
    m'.recordsOf a = m.recordsOf a := by
  simp only [recordsOf]
  rw [hinsert, Dict.find?_insert_of_ne _ _ ha]

/-! ## Publishing -/

theorem publishTo_mk (service : String) (signal : Signal) (a : String) (s : Subscription) :
    publishTo service signal (a, s) =
      if a = service ∧ s.attached then (a, if s.isLive then s.offer signal else s.detach)
      else (a, s) := rfl

theorem Holds.publish {m : Memory} {a : String} {id : SubscriptionId} {s : Subscription}
    (h : m.Holds a id s) (service : String) (signal : Signal) :
    (m.publish service signal).Holds a id (publishTo service signal (a, s)).2 := by
  have howner : (publishTo service signal (a, s)).1 = a := by
    rw [publishTo_mk]
    split <;> rfl
  simp only [Holds, Memory.publish]
  rw [List.getElem?_map, h, Option.map_some]
  exact congrArg some (Prod.ext howner rfl)

theorem alarmed_publishTo (service : String) (signal : Signal) (s : Subscription) :
    (publishTo service signal (service, s)).2.Alarmed := by
  rw [publishTo_mk]
  split
  · dsimp only
    split
    · exact s.alarmed_offer signal
    · exact s.alarmed_detach
  · next hdetached =>
    refine Or.inr ?_
    simpa using hdetached

theorem alarmed_publishTo_of_alarmed {s : Subscription} (h : s.Alarmed) (service a : String)
    (signal : Signal) : (publishTo service signal (a, s)).2.Alarmed := by
  rw [publishTo_mk]
  split
  · dsimp only
    split
    · exact s.alarmed_offer signal
    · exact s.alarmed_detach
  · exact h

/-! ## Calls from outside -/

/-- What a change does to the records of a service and to a subscription to it. -/
structure Noticed (m : Memory) (service : String) (id : SubscriptionId) (s : Subscription)
    (m' : Memory) (s' : Subscription) : Prop where
  holds : m'.Holds service id s'
  /-- A change of the records is not missed. -/
  alarmed : m'.recordsOf service = m.recordsOf service ∨ s'.Alarmed
  still : s.Alarmed → s'.Alarmed

theorem Holds.noticed_publish {m m' : Memory} {a : String} {id : SubscriptionId}
    {s : Subscription} (h : m.Holds a id s) {service : String} {signal : Signal}
    (records : Dict (List Record)) (hm' : m' = { m with records }.publish service signal)
    (hothers : a ≠ service → m'.recordsOf a = m.recordsOf a) :
    ∃ s', Noticed m a id s m' s' := by
  have hbefore : Holds { m with records } a id s := h
  refine ⟨(publishTo service signal (a, s)).2, ?_, ?_, ?_⟩
  · rw [hm']
    exact hbefore.publish service signal
  · by_cases ha : a = service
    · rw [ha]
      exact Or.inr (alarmed_publishTo service signal s)
    · exact Or.inl (hothers ha)
  · intro halarmed
    exact alarmed_publishTo_of_alarmed halarmed service a signal

theorem Holds.noticed_insert {m : Memory} {a : String} {id : SubscriptionId} {s : Subscription}
    (h : m.Holds a id s) (service : String) (records : List Record) :
    ∃ s', Noticed m a id s
      ({ m with records := m.records.insert service records }.publish service .changed) s' :=
  h.noticed_publish _ rfl fun ha => recordsOf_insert rfl ha

theorem Holds.noticed_refl {m m' : Memory} {a : String} {id : SubscriptionId} {s : Subscription}
    (h : m.Holds a id s) (hrecords : m'.records = m.records)
    (hsubscriptions : m'.subscriptions = m.subscriptions) : Noticed m a id s m' s := by
  refine ⟨?_, Or.inl ?_, fun halarmed => halarmed⟩
  · simp only [Holds]
    rw [hsubscriptions]
    exact h
  · simp only [recordsOf]
    rw [hrecords]

/-- No call from outside changes the records of a service behind the back of a subscription. -/
theorem Holds.noticed {m : Memory} {a : String} {id : SubscriptionId} {s : Subscription}
    (h : m.Holds a id s) (c : Change) : ∃ s', Noticed m a id s (m.apply c) s' := by
  cases c with
  | register r => exact h.noticed_insert r.service _
  | registerUnder service r => exact h.noticed_insert service _
  | deregister service instanceId =>
    unfold apply deregister
    dsimp only
    split
    · exact ⟨s, h.noticed_refl rfl rfl⟩
    · exact h.noticed_insert service _
  | setRecords service records => exact h.noticed_insert service records
  | publish service signal => exact h.noticed_publish m.records rfl fun _ => rfl
  | failLists reason? => exact ⟨s, h.noticed_refl rfl rfl⟩
  | failSubscribes reason? => exact ⟨s, h.noticed_refl rfl rfl⟩
  | delayLists delay => exact ⟨s, h.noticed_refl rfl rfl⟩
  | closeSubscriptions service =>
    by_cases ha : a = service
    · refine ⟨s.detach, ?_, Or.inl rfl, fun _ => s.alarmed_detach⟩
      simp only [Holds, apply, closeSubscriptions]
      rw [List.getElem?_map, h, Option.map_some, if_pos ha]
    · refine ⟨s, ?_, Or.inl rfl, fun halarmed => halarmed⟩
      simp only [Holds, apply, closeSubscriptions]
      rw [List.getElem?_map, h, Option.map_some, if_neg ha]

/-! ## Readers -/

theorem Holds.append {m : Memory} {a : String} {id : SubscriptionId} {s : Subscription}
    (h : m.Holds a id s) (e : String × Subscription) :
    Holds { m with subscriptions := m.subscriptions ++ [e] } a id s := by
  simp only [Holds]
  rw [List.getElem?_append_left h.lt_length]
  exact h

theorem Holds.modify_of_ne {m : Memory} {a : String} {id other : SubscriptionId}
    {s : Subscription} (h : m.Holds a id s) (hne : other ≠ id)
    (f : Subscription → Subscription) : (m.modify other f).Holds a id s := by
  simp only [Holds, modify]
  rw [List.getElem?_modify, h]
  simp only [hne, if_false, Option.map_eq_map, Option.map_some]

theorem Holds.modify_self {m : Memory} {a : String} {id : SubscriptionId} {s : Subscription}
    (h : m.Holds a id s) (f : Subscription → Subscription) : (m.modify id f).Holds a id (f s) := by
  simp only [Holds, modify]
  rw [List.getElem?_modify, h]
  simp only [if_true, Option.map_eq_map, Option.map_some]

end Memory

end Lookout
