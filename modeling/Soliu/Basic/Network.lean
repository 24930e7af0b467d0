import Mathlib.Data.List.Perm.Basic
import Mathlib.Logic.Function.Basic
import Soliu.Basic.Machine

/-!
# Networks

Nodes that run one machine each, the messages that they have sent and that are still in flight, and
a store that applies the messages one by one. Messages arrive in any order, and the store may refuse
a message, which changes nothing. A node can be started again at any time, also after a trap. Some
of its messages in flight are lost then, and others are kept and sent again.

* `Network.perm_of_run` : every message sent is accepted, refused, lost or still in flight;
* `Network.store_of_run` : the store is the result of the accepted messages, in order of arrival;
* `Network.inv_of_run` : what the machine keeps of a node, and what holds of all its outputs, as
  long as the events of the nodes meet a condition.
-/

/-- The parts that a network is made of. -/
structure Protocol (Node Event Message Store : Type*) where
  machine : Machine Node Event Message
  restart : Node → Node
  /-- The message stays in flight when its sender is started again. -/
  survives : Message → Bool
  apply : Store → Message → Store

/-- The nodes, the messages in flight with their senders, and the store. -/
structure Network (ι Node Message Store : Type*) where
  nodes : ι → Node
  inFlight : List (ι × Message)
  store : Store

namespace Network

/-- One thing that happens in a network. -/
inductive Event (ι E : Type*) where
  | act (i : ι) (e : E)
  | restart (i : ι)
  /-- The message at this place is taken out of the air, and accepted or refused. -/
  | deliver (k : ℕ) (accepted : Bool)
deriving DecidableEq

/-- What becomes of a message. -/
inductive Output (Message : Type*) where
  | sent (m : Message)
  | accepted (m : Message)
  | refused (m : Message)
  | lost (m : Message)
deriving DecidableEq

namespace Output

variable {Message : Type*}

/-- The message, if it has been sent. -/
def sent? : Output Message → Option Message
  | sent m => some m
  | _ => none

/-- The message, if it has been accepted. -/
def accepted? : Output Message → Option Message
  | accepted m => some m
  | _ => none

/-- The message, if it has been refused. -/
def refused? : Output Message → Option Message
  | refused m => some m
  | _ => none

/-- The message, if it has been lost. -/
def lost? : Output Message → Option Message
  | lost m => some m
  | _ => none

/-- The message, if it is on its way no longer. -/
def settled? : Output Message → Option Message
  | sent _ => none
  | accepted m => some m
  | refused m => some m
  | lost m => some m

/-- What is settled has been accepted, refused or lost. -/
lemma perm_settled (os : List (Output Message)) : (os.filterMap settled?).Perm
    (os.filterMap accepted? ++ os.filterMap refused? ++ os.filterMap lost?) := by
  induction os with
  | nil => rfl
  | cons o os ih =>
    cases o with
    | sent m => exact ih
    | accepted m => exact ih.cons m
    | refused m =>
      have hm : (os.filterMap accepted? ++ m :: os.filterMap refused? ++ os.filterMap lost?).Perm
          (m :: (os.filterMap accepted? ++ os.filterMap refused? ++ os.filterMap lost?)) :=
        List.perm_middle.append_right _
      exact (ih.cons m).trans hm.symm
    | lost m => exact (ih.cons m).trans List.perm_middle.symm

/-- Outputs of another kind are left out. -/
lemma filterMap_map_eq_nil {f : Message → Output Message} {g : Output Message → Option Message}
    (h : ∀ m, g (f m) = none) (ms : List Message) : (ms.map f).filterMap g = [] := by
  rw [List.filterMap_map]
  exact List.filterMap_eq_nil_iff.mpr fun m _ => h m

/-- Outputs of the kind asked for are all there. -/
lemma filterMap_map_eq_self {f : Message → Output Message} {g : Output Message → Option Message}
    (h : ∀ m, g (f m) = some m) (ms : List Message) : (ms.map f).filterMap g = ms := by
  rw [List.filterMap_map]
  exact (List.filterMap_congr fun m _ => h m).trans List.filterMap_some

end Output

variable {ι Node E Message Store : Type*} [DecidableEq ι]

/-- The messages in flight that are lost when this node is started again. -/
def lostBy (p : Protocol Node E Message Store) (i : ι) (m : ι × Message) : Bool :=
  m.1 = i ∧ ¬ p.survives m.2

/-- One event, or `none` where it traps or cannot happen. -/
def step (p : Protocol Node E Message Store) (s : Network ι Node Message Store) :
    Event ι E → Option (Network ι Node Message Store × List (Output Message))
  | .act i e =>
    (p.machine.step (s.nodes i) e).map fun r =>
      ({ s with nodes := Function.update s.nodes i r.1, inFlight := s.inFlight ++ r.2.map (i, ·) },
        r.2.map .sent)
  | .restart i =>
    some
      ({ s with
          nodes := Function.update s.nodes i (p.restart (s.nodes i))
          inFlight := s.inFlight.filter fun m => ! lostBy p i m },
        ((s.inFlight.filter (lostBy p i)).map Prod.snd).map .lost)
  | .deliver k accepted =>
    s.inFlight[k]?.map fun m =>
      ({ s with
          inFlight := s.inFlight.eraseIdx k
          store := if accepted then p.apply s.store m.2 else s.store },
        [if accepted then .accepted m.2 else .refused m.2])

/-- The network itself as one machine. -/
def machine (p : Protocol Node E Message Store) :
    Machine (Network ι Node Message Store) (Event ι E) (Output Message) := ⟨step p⟩

variable {p : Protocol Node E Message Store} {s₀ s s' : Network ι Node Message Store}
  {es : List (Event ι E)} {e : Event ι E} {os o : List (Output Message)}

/-- One event of a network: what becomes of the nodes, the air and the store. -/
lemma step_cases (h : (machine p).step s e = some (s', o)) :
    (∃ i a t ms, e = .act i a ∧ p.machine.step (s.nodes i) a = some (t, ms) ∧
        s' = { s with
          nodes := Function.update s.nodes i t, inFlight := s.inFlight ++ ms.map (i, ·) } ∧
        o = ms.map .sent) ∨
      (∃ i, e = .restart i ∧
        s' = { s with
          nodes := Function.update s.nodes i (p.restart (s.nodes i))
          inFlight := s.inFlight.filter fun m => ! lostBy p i m } ∧
        o = ((s.inFlight.filter (lostBy p i)).map Prod.snd).map .lost) ∨
      (∃ k m, e = .deliver k true ∧ s.inFlight[k]? = some m ∧
        s' = { s with inFlight := s.inFlight.eraseIdx k, store := p.apply s.store m.2 } ∧
        o = [.accepted m.2]) ∨
      ∃ k m, e = .deliver k false ∧ s.inFlight[k]? = some m ∧
        s' = { s with inFlight := s.inFlight.eraseIdx k } ∧ o = [.refused m.2] := by
  cases e with
  | act i a =>
    obtain ⟨⟨t, ms⟩, ht, e⟩ := Option.map_eq_some_iff.mp h
    cases e
    exact .inl ⟨i, a, t, ms, rfl, ht, rfl, rfl⟩
  | restart i =>
    cases h
    exact .inr (.inl ⟨i, rfl, rfl, rfl⟩)
  | deliver k accepted =>
    obtain ⟨m, hm, e⟩ := Option.map_eq_some_iff.mp h
    cases e
    cases accepted with
    | true => exact .inr (.inr (.inl ⟨k, m, rfl, hm, rfl, rfl⟩))
    | false => exact .inr (.inr (.inr ⟨k, m, rfl, hm, rfl, rfl⟩))

/-- What a step sends, and what it takes out of the air. -/
lemma perm_of_step (h : (machine p).step s e = some (s', o)) :
    (s.inFlight.map Prod.snd ++ o.filterMap Output.sent?).Perm
      (o.filterMap Output.settled? ++ s'.inFlight.map Prod.snd) := by
  -- what a delivery takes out of the air
  have hair : ∀ {k : ℕ} {m : ι × Message}, s.inFlight[k]? = some m →
      (s.inFlight.map Prod.snd ++ []).Perm (m.2 :: (s.inFlight.eraseIdx k).map Prod.snd) := by
    intro k m hm
    obtain ⟨hk, rfl⟩ := List.getElem?_eq_some_iff.mp hm
    rw [List.append_nil]
    exact ((List.getElem_cons_eraseIdx_perm hk).map Prod.snd).symm
  obtain ⟨i, a, t, ms, -, -, rfl, rfl⟩ | ⟨i, -, rfl, rfl⟩ | ⟨k, m, -, hm, rfl, rfl⟩ |
    ⟨k, m, -, hm, rfl, rfl⟩ := step_cases h
  · rw [Output.filterMap_map_eq_self fun _ => rfl, Output.filterMap_map_eq_nil fun _ => rfl,
      List.nil_append, List.map_append, List.map_map]
    exact .of_eq (congrArg _ (List.map_id ms).symm)
  · rw [Output.filterMap_map_eq_nil fun _ => rfl, Output.filterMap_map_eq_self fun _ => rfl,
      List.append_nil, ← List.map_append]
    exact (List.filter_append_perm (lostBy p i) s.inFlight).symm.map Prod.snd
  · exact hair hm
  · exact hair hm

/-- Every message sent is accepted, refused, lost or still in flight, and no other message is. -/
theorem perm_of_run (h : (machine p).run s₀ es = some (s, os)) :
    (s₀.inFlight.map Prod.snd ++ os.filterMap Output.sent?).Perm
      (os.filterMap Output.accepted? ++ os.filterMap Output.refused? ++
        os.filterMap Output.lost? ++ s.inFlight.map Prod.snd) := by
  have hsettled : (s₀.inFlight.map Prod.snd ++ os.filterMap Output.sent?).Perm
      (os.filterMap Output.settled? ++ s.inFlight.map Prod.snd) := by
    refine Machine.run_rule (P := fun _ s os =>
      (s₀.inFlight.map Prod.snd ++ os.filterMap Output.sent?).Perm
        (os.filterMap Output.settled? ++ s.inFlight.map Prod.snd)) ?_ ?_ h
    · rw [List.filterMap_nil, List.append_nil]
      rfl
    · rintro es s os e s' o - ih hs
      rw [List.filterMap_append, List.filterMap_append, ← List.append_assoc, List.append_assoc _ _
        (s'.inFlight.map _)]
      refine (ih.append_right _).trans ?_
      rw [List.append_assoc]
      exact (perm_of_step hs).append_left _
  exact hsettled.trans ((Output.perm_settled os).append_right _)

/-- The messages that are lost do not survive a restart. -/
theorem not_survives_of_run (h : (machine p).run s₀ es = some (s, os)) :
    ∀ m ∈ os.filterMap Output.lost?, ¬ p.survives m := by
  refine Machine.run_rule (P := fun _ _ os => ∀ m ∈ os.filterMap Output.lost?, ¬ p.survives m)
    (List.forall_mem_nil _) ?_ h
  rintro es s os e s' o - ih hs
  rw [List.filterMap_append]
  refine List.forall_mem_append.mpr ⟨ih, ?_⟩
  obtain ⟨i, a, t, ms, -, -, rfl, rfl⟩ | ⟨i, -, rfl, rfl⟩ | ⟨k, m, -, hm, rfl, rfl⟩ |
    ⟨k, m, -, hm, rfl, rfl⟩ := step_cases hs
  · rw [Output.filterMap_map_eq_nil fun _ => rfl]
    exact List.forall_mem_nil _
  · rw [Output.filterMap_map_eq_self fun _ => rfl, List.forall_mem_map]
    intro m hm
    exact (of_decide_eq_true (List.mem_filter.mp hm).2).2
  · exact List.forall_mem_nil _
  · exact List.forall_mem_nil _

/-- From an empty air, what is accepted has been sent. -/
lemma mem_sent_of_mem_accepted (h : (machine p).run s₀ es = some (s, os)) (hair : s₀.inFlight = [])
    {m : Message} (hm : m ∈ os.filterMap Output.accepted?) : m ∈ os.filterMap Output.sent? := by
  have hperm := perm_of_run h
  rw [hair, List.map_nil, List.nil_append] at hperm
  exact hperm.mem_iff.mpr
    (List.mem_append_left _ (List.mem_append_left _ (List.mem_append_left _ hm)))

/-- The store is the result of the messages it accepted, in the order in which they arrived. -/
theorem store_of_run (h : (machine p).run s₀ es = some (s, os)) :
    s.store = (os.filterMap Output.accepted?).foldl p.apply s₀.store := by
  refine Machine.run_rule (P := fun _ s os =>
    s.store = (os.filterMap Output.accepted?).foldl p.apply s₀.store) rfl ?_ h
  rintro es s os e s' o - ih hs
  rw [List.filterMap_append, List.foldl_append, ← ih]
  obtain ⟨i, a, t, ms, -, -, rfl, rfl⟩ | ⟨i, -, rfl, rfl⟩ | ⟨k, m, -, hm, rfl, rfl⟩ |
    ⟨k, m, -, hm, rfl, rfl⟩ := step_cases hs
  · rw [Output.filterMap_map_eq_nil fun _ => rfl]
    rfl
  · rw [Output.filterMap_map_eq_nil fun _ => rfl]
    rfl
  · rfl
  · rfl

/-- The event is none of a node, or meets a condition on the node that it is of. -/
def Meets (Q : Node → E → Prop) (s : Network ι Node Message Store) (e : Event ι E) : Prop :=
  ∀ i a, e = .act i a → Q (s.nodes i) a

/-- Whether an event meets a condition can be decided where that can be on the nodes. -/
instance decidableMeets {Q : Node → E → Prop} [∀ s e, Decidable (Q s e)] :
    ∀ (s : Network ι Node Message Store) (e : Event ι E), Decidable (Meets Q s e)
  | s, .act i e =>
    decidable_of_iff (Q (s.nodes i) e) ⟨fun h => by rintro _ _ ⟨⟩; exact h, fun h => h i e rfl⟩
  | _, .restart _ => .isTrue (by rintro _ _ ⟨⟩)
  | _, .deliver _ _ => .isTrue (by rintro _ _ ⟨⟩)

section

variable {I : Node → Prop} {Q : Node → E → Prop} {P : List Message → Prop}

/-- What the machine and a restart keep of a node holds of every node after every run, and what
holds of the outputs of such nodes holds of the messages sent, all under a condition on the
events. -/
theorem inv_of_run (nil : P []) (append : ∀ {ms ms'}, P ms → P ms' → P (ms ++ ms'))
    (act : ∀ {t a t' ms}, I t → Q t a → p.machine.step t a = some (t', ms) → I t' ∧ P ms)
    (restart : ∀ {t}, I t → I (p.restart t)) (nodes : ∀ i, I (s₀.nodes i))
    (hes : (machine p).EachStep s₀ es (Meets Q)) (h : (machine p).run s₀ es = some (s, os)) :
    (∀ i, I (s.nodes i)) ∧ P (os.filterMap Output.sent?) := by
  have hupdate : ∀ (nodes : ι → Node) (i : ι) (t : Node), (∀ j, I (nodes j)) → I t →
      ∀ j, I (Function.update nodes i t j) := by
    intro nodes i t hnodes ht j
    by_cases hj : j = i
    · rw [hj, Function.update_self]
      exact ht
    · rw [Function.update_of_ne hj]
      exact hnodes j
  refine Machine.run_rule (P := fun es s os => (machine p).EachStep s₀ es (Meets Q) →
    (∀ i, I (s.nodes i)) ∧ P (os.filterMap Output.sent?)) (fun _ => ⟨nodes, nil⟩) ?_ h hes
  rintro es s os e s' o hr ih hs hes
  rw [Machine.eachStep_concat hr] at hes
  obtain ⟨ihnodes, ihsent⟩ := ih hes.1
  rw [List.filterMap_append]
  obtain ⟨i, a, t, ms, rfl, ht, rfl, rfl⟩ | ⟨i, -, rfl, rfl⟩ | ⟨k, m, -, hm, rfl, rfl⟩ |
    ⟨k, m, -, hm, rfl, rfl⟩ := step_cases hs
  · obtain ⟨ht', hms⟩ := act (ihnodes i) (hes.2 i a rfl) ht
    rw [Output.filterMap_map_eq_self fun _ => rfl]
    exact ⟨hupdate _ _ _ ihnodes ht', append ihsent hms⟩
  · rw [Output.filterMap_map_eq_nil fun _ => rfl, List.append_nil]
    exact ⟨hupdate _ _ _ ihnodes (restart (ihnodes i)), ihsent⟩
  · exact ⟨ihnodes, append ihsent nil⟩
  · exact ⟨ihnodes, append ihsent nil⟩

end

end Network
