import Lookout.Proofs.Share
import Lookout.Proofs.Source.Subscriptions

/-!
# What a source holds for one service

The share of a service in a registry in memory: its records, its subscriptions and how often it has
been listed. Failures and delays are set for all services alike and belong to every share. Whatever
is asked of the registry about a service is answered from its share, and a subscription is found
there at its rank.
-/
set_option autoImplicit false

namespace Lookout

namespace Memory

def owners (m : Memory) : List String := m.subscriptions.map Prod.fst

def only (m : Memory) (a : String) : Memory :=
  { m with
    records := m.records.only a id
    subscriptions := share Prod.fst a m.subscriptions
    listCalls := m.listCalls.only a id }

/-- The service that a call from outside is about; none if it is about all. -/
def Change.about? : Change → Option String
  | .register r => some r.service
  | .registerUnder service _ => some service
  | .deregister service _ => some service
  | .setRecords service _ => some service
  | .publish service _ => some service
  | .failLists _ => none
  | .failSubscribes _ => none
  | .closeSubscriptions service => some service
  | .delayLists _ => none

section
variable {m : Memory} {a b : String}

theorem recordsOf_only (m : Memory) (a : String) : (m.only a).recordsOf a = m.recordsOf a := by
  simp only [recordsOf, only]
  rw [Dict.find?_only_self, Option.map_id, id_eq]

theorem listCallsOf_only (m : Memory) (a : String) :
    (m.only a).listCallsOf a = m.listCallsOf a := by
  simp only [listCallsOf, only]
  rw [Dict.find?_only_self, Option.map_id, id_eq]

/-! ## Subscriptions -/

theorem owners_modify (m : Memory) (id : SubscriptionId) (f : Subscription → Subscription) :
    (m.modify id f).owners = m.owners := by
  simp only [owners, modify]
  apply List.ext_getElem?
  intro j
  rw [List.getElem?_map, List.getElem?_map, List.getElem?_modify, Option.map_eq_map,
    Option.map_map]
  congr 1
  funext e
  simp only [Function.comp_apply]
  split <;> rfl

theorem owners_publish (m : Memory) (b : String) (signal : Signal) :
    (m.publish b signal).owners = m.owners := by
  simp only [owners, publish, List.map_map]
  congr 1
  funext e
  simp only [Function.comp_apply, publishTo]
  split <;> rfl

theorem owners_apply (m : Memory) (c : Change) : (m.apply c).owners = m.owners := by
  cases c with
  | register r => exact owners_publish _ _ _
  | registerUnder b r => exact owners_publish _ _ _
  | deregister b instanceId =>
    simp only [apply, deregister]
    split
    · rfl
    · exact owners_publish _ _ _
  | setRecords b records => exact owners_publish _ _ _
  | publish b signal => exact owners_publish _ _ _
  | closeSubscriptions b =>
    simp only [apply, owners, closeSubscriptions, List.map_map]
    congr 1
    funext e
    simp only [Function.comp_apply]
    split <;> rfl
  | failLists reason? => rfl
  | failSubscribes reason? => rfl
  | delayLists delay => rfl

theorem Holds.only {id : SubscriptionId} {s : Subscription} (h : m.Holds a id s) :
    (m.only a).Holds a (rank a m.owners id) s := share_getElem? h rfl

theorem only_modify {id : SubscriptionId} {s : Subscription} (h : m.Holds a id s)
    (f : Subscription → Subscription) :
    (m.modify id f).only a = (m.only a).modify (rank a m.owners id) f := by
  have hshare := share_modify (o := Prod.fst) (f := fun e => (e.1, f e.2)) h rfl rfl
  simp only [only, modify]
  rw [hshare]
  rfl

theorem only_modify_of_ne {id : SubscriptionId} {s : Subscription} (h : m.Holds b id s)
    (hab : b ≠ a) (f : Subscription → Subscription) : (m.modify id f).only a = m.only a := by
  have hshare := share_modify_of_ne (o := Prod.fst) (f := fun e => (e.1, f e.2)) h hab hab
  simp only [only, modify]
  rw [hshare]

theorem receive_only {id : SubscriptionId} {s : Subscription} (h : m.Holds a id s) :
    (m.only a).receive (rank a m.owners id) = ((m.receive id).1, (m.receive id).2.only a) := by
  simp only [receive]
  rw [h.subscription?, h.only.subscription?]
  dsimp only
  rw [only_modify h]

theorem owners_receive (m : Memory) (id : SubscriptionId) :
    (m.receive id).2.owners = m.owners := by
  simp only [receive]
  split
  · rfl
  · exact owners_modify _ _ _

theorem receive_only_of_ne {id : SubscriptionId} {s : Subscription} (h : m.Holds b id s)
    (hab : b ≠ a) : (m.receive id).2.only a = m.only a := by
  simp only [receive]
  rw [h.subscription?]
  exact only_modify_of_ne h hab _

def opened (m : Memory) (b : String) : Memory :=
  { m with subscriptions := m.subscriptions ++ [(b, .opened)] }

theorem subscribe_of_none (h : m.subscribeFailure? = none) (b : String) :
    m.subscribe b = .ok (m.opened b, m.subscriptions.length) := by
  unfold subscribe
  split
  · next reason hreason => exact absurd (hreason.symm.trans h) (by simp)
  · rfl

theorem subscribe_of_some {reason : String} (h : m.subscribeFailure? = some reason) (b : String) :
    m.subscribe b = .error reason := by
  simp only [subscribe]
  rw [h]

theorem owners_opened (m : Memory) (b : String) : (m.opened b).owners = m.owners ++ [b] := by
  simp [owners, opened]

theorem only_opened (m : Memory) (a : String) : (m.opened a).only a = (m.only a).opened a := by
  simp only [only, opened]
  rw [share_append]
  congr 2
  exact share_cons_self rfl

theorem only_opened_of_ne (hab : b ≠ a) (m : Memory) : (m.opened b).only a = m.only a := by
  have hother : share Prod.fst a [(b, Subscription.opened)] = [] := share_cons_of_ne hab
  simp only [only, opened]
  rw [share_append, hother, List.append_nil]

/-- The id that a subscription is about to get has the rank that it is about to get in the share. -/
theorem rank_next (m : Memory) (a : String) :
    rank a m.owners m.subscriptions.length = (m.only a).subscriptions.length :=
  rank_length _

theorem rank_opened {id : SubscriptionId} (h : id ≤ m.subscriptions.length) (a b : String) :
    rank a (m.opened b).owners id = rank a m.owners id := by
  rw [owners_opened]
  refine rank_append ?_
  rw [owners, List.length_map]
  exact h

/-! ## Lists -/

theorem only_countList_self (m : Memory) (a : String) :
    (m.countList a).only a = (m.only a).countList a := by
  have hcalls := Dict.only_insert_self m.listCalls a (m.listCallsOf a + 1) id
  have hcount := listCallsOf_only m a
  simp only [countList]
  rw [hcount]
  simp only [only]
  rw [hcalls]
  rfl

theorem only_countList_of_ne (hab : b ≠ a) : (m.countList b).only a = m.only a := by
  simp only [countList, only]
  rw [Dict.only_insert_of_ne _ hab.symm]

/-! ## Calls from outside -/

theorem publishTo_of_ne {e : String × Subscription} (h : e.1 ≠ b) (signal : Signal) :
    publishTo b signal e = e := by
  obtain ⟨owner, s⟩ := e
  rw [publishTo_mk, if_neg fun hboth => h hboth.1]

theorem fst_publishTo (b : String) (signal : Signal) (e : String × Subscription) :
    (publishTo b signal e).1 = e.1 := by
  obtain ⟨owner, s⟩ := e
  rw [publishTo_mk]
  split <;> rfl

theorem only_publish (m : Memory) (a b : String) (signal : Signal) :
    (m.publish b signal).only a = (m.only a).publish b signal := by
  simp only [publish, only]
  rw [share_map fun e => fst_publishTo b signal e]

theorem share_map_eq_self (xs : List (String × Subscription))
    {f : String × Subscription → String × Subscription} (howner : ∀ e, (f e).1 = e.1)
    (hf : ∀ e, e.1 = a → f e = e) : share Prod.fst a (xs.map f) = share Prod.fst a xs := by
  rw [share_map howner]
  have hsame : ∀ e ∈ share Prod.fst a xs, f e = e := fun e he => hf e (mem_share.1 he).2
  rw [List.map_congr_left hsame, List.map_id']

theorem only_publish_of_ne (hab : b ≠ a) (m : Memory) (signal : Signal) :
    (m.publish b signal).only a = m.only a := by
  have hshare := share_map_eq_self (a := a) m.subscriptions
    (fun e => fst_publishTo b signal e)
    (fun e he => publishTo_of_ne (by rw [he]; exact hab.symm) signal)
  simp only [publish, only]
  rw [hshare]

theorem only_set (m : Memory) (a : String) (records : List Record) :
    ({ m with records := m.records.insert a records }.publish a .changed).only a =
      { m.only a with records := (m.only a).records.insert a records }.publish a .changed := by
  have hinsert := Dict.only_insert_self m.records a records id
  rw [only_publish]
  simp only [only]
  rw [hinsert]
  rfl

theorem only_set_of_ne (hab : b ≠ a) (m : Memory) (records : List Record) :
    ({ m with records := m.records.insert b records }.publish b .changed).only a = m.only a := by
  have hinsert := Dict.only_insert_of_ne (d := m.records) (f := id) records hab.symm
  rw [only_publish_of_ne hab]
  simp only [only]
  rw [hinsert]

theorem only_closeSubscriptions_of_ne (hab : b ≠ a) (m : Memory) :
    (m.closeSubscriptions b).only a = m.only a := by
  have hshare := share_map_eq_self (a := a) m.subscriptions
    (f := fun e => if e.1 = b then (e.1, e.2.detach) else e)
    (fun e => by split <;> rfl)
    (fun e he => if_neg (by rw [he]; exact hab.symm))
  simp only [closeSubscriptions, only]
  rw [hshare]

theorem only_closeSubscriptions (m : Memory) (a b : String) :
    (m.closeSubscriptions b).only a = (m.only a).closeSubscriptions b := by
  simp only [closeSubscriptions, only]
  rw [share_map fun e => by split <;> rfl]

theorem only_apply_of_ne {c : Change} (hc : c.about? = some b) (hab : b ≠ a) (m : Memory) :
    (m.apply c).only a = m.only a := by
  cases c with
  | register r =>
    obtain rfl := Option.some.inj hc
    exact only_set_of_ne hab m _
  | registerUnder service r =>
    obtain rfl := Option.some.inj hc
    exact only_set_of_ne hab m _
  | deregister service instanceId =>
    obtain rfl := Option.some.inj hc
    simp only [apply, deregister]
    split
    · rfl
    · exact only_set_of_ne hab m _
  | setRecords service records =>
    obtain rfl := Option.some.inj hc
    exact only_set_of_ne hab m _
  | publish service signal =>
    obtain rfl := Option.some.inj hc
    exact only_publish_of_ne hab m signal
  | closeSubscriptions service =>
    obtain rfl := Option.some.inj hc
    exact only_closeSubscriptions_of_ne hab m
  | failLists reason? => cases hc
  | failSubscribes reason? => cases hc
  | delayLists delay => cases hc

/-- A call about a service, or about all, does to its share what it does to the registry. -/
theorem only_apply {c : Change} (hc : ∀ b, c.about? = some b → b = a) (m : Memory) :
    (m.apply c).only a = (m.only a).apply c := by
  have hrecords := recordsOf_only m a
  cases c with
  | register r =>
    obtain rfl := hc _ rfl
    simp only [apply, register, registerUnder]
    rw [hrecords]
    exact only_set m _ _
  | registerUnder service r =>
    obtain rfl := hc _ rfl
    simp only [apply, registerUnder]
    rw [hrecords]
    exact only_set m _ _
  | deregister service instanceId =>
    obtain rfl := hc _ rfl
    simp only [apply, deregister]
    rw [hrecords]
    split
    · rfl
    · exact only_set m _ _
  | setRecords service records =>
    obtain rfl := hc _ rfl
    exact only_set m _ _
  | publish service signal => exact only_publish m a service signal
  | closeSubscriptions service => exact only_closeSubscriptions m a service
  | failLists reason? => rfl
  | failSubscribes reason? => rfl
  | delayLists delay => rfl

end

end Memory

end Lookout
