import Soliu.Basic.Transaction
import Soliu.Diary.Rows

/-!
# The diary over several launches

A deletion that reads beyond the list terminates the application, and so may the system or the user
at any time. Nothing saves the context then, so what is pending in it is lost, and the next launch
loads the store. `launches_keep_committed` says what is left of a history of operations, crashes and
launches: the store has exactly the changes that were saved before the application was next
terminated, and the context has these and the pending ones.
-/

namespace Soliu

/-- An operation of the diary, or the end of a launch and the beginning of the next. -/
inductive LaunchEvent where
  | operation (e : DiaryEvent)
  /-- The application is terminated from outside, and launched again. -/
  | relaunch

/-- What an operation does to the diaries. -/
structure DiaryChange where
  added : List Diary := []
  removed : List Diary := []

/-- What a change makes of a list of diaries: it adds, then removes. -/
def DiaryChange.apply (ds : List Diary) (c : DiaryChange) : List Diary :=
  (ds ++ c.added).filter fun d => d ∉ c.removed

/-- What diaries become by all of the changes at once. -/
def DiaryChange.applyAll (ds : List Diary) (cs : List DiaryChange) : List Diary :=
  (ds ++ cs.flatMap added).filter fun d => d ∉ cs.flatMap removed

namespace DiaryState

/-- The container is made anew from the store, and the list is empty; identities are not used
again. -/
def relaunch (s : DiaryState) : DiaryState where
  context := { store := s.context.store, nextID := s.context.nextID }

variable (F : Foundation)

/-- The diary over launches: the machine of one launch, relaunched when it traps. -/
def launches : Machine DiaryState LaunchEvent DiaryOutput where
  step s
    | .operation e =>
      match (machine F).step s e with
      | some r => some r
      -- the operation traps, which terminates the application
      | none => some (s.relaunch, [])
    | .relaunch => some (s.relaunch, [])

/-- An event as a transaction on the diaries. -/
def transaction (s : DiaryState) : LaunchEvent → List (Transaction.Event DiaryChange)
  | .operation e =>
    match (machine F).step s e with
    | some _ =>
      .change { added := s.added e, removed := s.removed e } :: if e.saves then [.commit] else []
    | none => [.rollback]
  | .relaunch => [.rollback]

/-- The events from a first launch on, as transactions. -/
def history (stored : List Diary) (es : List LaunchEvent) :
    List (Transaction.Event DiaryChange) :=
  (launches F).collect (transaction F) (launch stored) es

/-- The changes of a history, stored and pending. -/
def changeLog (stored : List Diary) (es : List LaunchEvent) : Transaction.Log DiaryChange :=
  Transaction.log (history F stored es)

variable {F : Foundation} {s s' : DiaryState} {stored : List Diary} {e : LaunchEvent}
  {es : List LaunchEvent} {o os : List DiaryOutput}

/-- An event is an operation that goes through, or leaves the diaries of the store. -/
lemma launches_cases (hs : (launches F).step s e = some (s', o)) :
    (∃ op, e = .operation op ∧ (machine F).step s op = some (s', o) ∧ transaction F s e =
        .change { added := s.added op, removed := s.removed op } ::
          if op.saves then [.commit] else []) ∨
      s' = s.relaunch ∧ transaction F s e = [.rollback] := by
  cases e with
  | operation op =>
    dsimp only [launches] at hs
    cases hstep : (machine F).step s op with
    | some r =>
      rw [hstep] at hs
      cases hs
      exact .inl ⟨op, rfl, hstep, by rw [transaction, hstep]⟩
    | none =>
      rw [hstep] at hs
      cases hs
      exact .inr ⟨rfl, by rw [transaction, hstep]⟩
  | relaunch =>
    cases hs
    exact .inr ⟨rfl, rfl⟩

/-- After a relaunch the objects are those of the store. -/
lemma objects_relaunch : s.relaunch.context.objects = s.context.store := by
  simp [relaunch, ManagedContext.objects]

/-- A relaunch keeps the state consistent. -/
lemma IsConsistent.relaunch (h : s.IsConsistent) : s.relaunch.IsConsistent where
  nodup := by
    dsimp only [DiaryState.relaunch]
    rw [List.append_nil]
    exact h.nodup.sublist ((List.sublist_append_left _ _).map _)
  fresh := by
    dsimp only [DiaryState.relaunch]
    rw [List.append_nil]
    exact fun d hd => h.fresh d (List.mem_append_left _ hd)
  freshDeleted := List.forall_mem_nil _
  listed := List.forall_mem_nil _
  distinct := List.nodup_nil

/-- The context as a pair of copies: what is stored, and what a fetch returns. -/
def copies (s : DiaryState) : Transaction (List Diary) := ⟨s.context.store, s.context.objects⟩

/-- One event moves the copies as its transaction says. -/
lemma IsConsistent.copies_step (h : s.IsConsistent)
    (hs : (launches F).step s e = some (s', o)) :
    s'.copies = (transaction F s e).foldl (Transaction.step DiaryChange.apply) s.copies := by
  obtain ⟨op, rfl, hop, htransaction⟩ | ⟨rfl, htransaction⟩ := launches_cases hs
  · obtain ⟨hobjects, hstore⟩ := h.objects_step hop
    rw [htransaction, copies, hstore, hobjects]
    cases op.saves <;> rfl
  · rw [htransaction, copies, objects_relaunch]
    rfl

/-- Changes that never add what an earlier one has removed can be made at once. -/
lemma foldl_apply {cs : List DiaryChange}
    (h : cs.Pairwise fun c c' => c.removed.Disjoint c'.added) (ds : List Diary) :
    cs.foldl DiaryChange.apply ds = DiaryChange.applyAll ds cs := by
  induction cs using List.reverseRecOn with
  | nil => exact (List.append_nil ds).symm.trans (List.filter_eq_self.mpr fun _ _ => rfl).symm
  | append_singleton cs c ih =>
    obtain ⟨hcs, -, hc⟩ := List.pairwise_append.mp h
    have hself : c.added.filter (fun d => d ∉ cs.flatMap DiaryChange.removed) = c.added := by
      refine List.filter_eq_self.mpr fun d hd => decide_eq_true fun hmem => ?_
      obtain ⟨c', hc', hd'⟩ := List.mem_flatMap.mp hmem
      exact hc c' hc' c List.mem_cons_self hd' hd
    rw [List.foldl_concat, ih hcs, DiaryChange.apply, DiaryChange.applyAll, DiaryChange.applyAll,
      List.flatMap_append, List.flatMap_append, List.flatMap_singleton, List.flatMap_singleton,
      ← List.append_assoc, filter_notMem_append, List.filter_append (_ ++ _), hself]

/-- All changes of a history, also those that are lost. -/
def changes (F : Foundation) (stored : List Diary) (es : List LaunchEvent) : List DiaryChange :=
  (history F stored es).filterMap Transaction.Event.change?

/-- What a history keeps: the copies follow the transactions, and what is added is new. -/
structure Follows (F : Foundation) (stored : List Diary) (es : List LaunchEvent) (s : DiaryState) :
    Prop where
  consistent : s.IsConsistent
  copies : s.copies =
    (history F stored es).foldl (Transaction.step DiaryChange.apply) ⟨stored, stored⟩
  fresh : ∀ c ∈ changes F stored es, ∀ d ∈ c.removed, d.objectID < s.context.nextID
  pairwise : (changes F stored es).Pairwise fun c c' => c.removed.Disjoint c'.added

/-- The history of no events is followed by the state at the launch. -/
lemma Follows.launch (hstored : (stored.map Diary.objectID).Nodup) :
    Follows F stored [] (launch stored) := by
  refine ⟨.launch hstored, ?_, List.forall_mem_nil _, List.Pairwise.nil⟩
  simp [DiaryState.copies, DiaryState.launch, ManagedContext.objects, history, Machine.collect]

/-- The changes of a longer history are those of the shorter, and those of the last event. -/
lemma changes_concat (hrun : (launches F).run (launch stored) es = some (s, os)) :
    changes F stored (es ++ [e]) =
      changes F stored es ++ (transaction F s e).filterMap Transaction.Event.change? := by
  rw [changes, history, Machine.collect_concat hrun, List.filterMap_append]
  rfl

/-- The change of an operation is the same whether it saves or not. -/
lemma filterMap_change?_transaction (op : DiaryEvent) (c : DiaryChange) :
    (Transaction.Event.change c :: if op.saves then [.commit] else []).filterMap
      Transaction.Event.change? = [c] := by
  cases op.saves <;> rfl

/-- One event of the history keeps store and context where the transactions put them. -/
lemma Follows.step (h : Follows F stored es s)
    (hrun : (launches F).run (DiaryState.launch stored) es = some (s, os))
    (hs : (launches F).step s e = some (s', o)) : Follows F stored (es ++ [e]) s' := by
  have hcopies : s'.copies =
      (history F stored (es ++ [e])).foldl (Transaction.step DiaryChange.apply)
        ⟨stored, stored⟩ := by
    rw [h.consistent.copies_step hs, h.copies, ← List.foldl_append, history, history,
      Machine.collect_concat hrun]
  have hchanges := changes_concat (e := e) hrun
  obtain ⟨op, rfl, hop, htransaction⟩ | ⟨rfl, htransaction⟩ := launches_cases hs
  · obtain ⟨hnextID, hadded⟩ := nextID_step hop
    rw [htransaction, filterMap_change?_transaction] at hchanges
    refine ⟨h.consistent.step hop, hcopies, ?_, ?_⟩
    · rw [hchanges, List.forall_mem_append, List.forall_mem_singleton]
      refine ⟨fun c hc d hd => Nat.lt_of_lt_of_le (h.fresh c hc d hd) hnextID, fun d hd => ?_⟩
      have hobj := h.consistent.removed_subset op hd
      exact Nat.lt_of_lt_of_le (h.consistent.fresh d (ManagedContext.mem_objects.mp hobj).1) hnextID
    · rw [hchanges]
      refine List.pairwise_append.mpr ⟨h.pairwise, List.pairwise_singleton _ _, ?_⟩
      intro c hc c' hc' d hremoved hd
      rw [List.mem_singleton.mp hc'] at hd
      exact absurd (h.fresh c hc d hremoved) (Nat.not_lt_of_le (hadded d hd).1)
  · -- nothing is changed, and identities are not used again
    rw [htransaction] at hchanges
    have hsame : changes F stored (es ++ [e]) = changes F stored es :=
      hchanges.trans (List.append_nil _)
    exact ⟨h.consistent.relaunch, hcopies, hsame ▸ h.fresh, hsame ▸ h.pairwise⟩

/-- Store and context follow the transactions of every history. -/
lemma Follows.of_run (hstored : (stored.map Diary.objectID).Nodup)
    (hrun : (launches F).run (DiaryState.launch stored) es = some (s, os)) :
    Follows F stored es s :=
  Machine.run_rule (P := fun es s _ => Follows F stored es s) (.launch hstored)
    (fun hrun h hs => h.step hrun hs) hrun

end DiaryState

open DiaryState (launches changeLog)

/-- In every history of operations, saves that throw, operations that trap, terminations and
launches: the store is what was stored at first with the changes of the operations that a save
followed before the next termination, all of them and no others; the context has the pending changes
too, which the next save would store; and no two stored diaries have one identity. -/
theorem launches_keep_committed (F : Foundation) (stored : List Diary) (es : List LaunchEvent)
    (s : DiaryState) (os : List DiaryOutput) (hstored : (stored.map Diary.objectID).Nodup)
    (hrun : (launches F).run (.launch stored) es = some (s, os)) :
    s.context.store = DiaryChange.applyAll stored (changeLog F stored es).durable ∧
      s.context.objects = DiaryChange.applyAll stored (changeLog F stored es).changes ∧
      (s.context.store.map Diary.objectID).Nodup := by
  have h := DiaryState.Follows.of_run hstored hrun
  have hcopies := h.copies
  rw [Transaction.foldl_step] at hcopies
  obtain ⟨hstore, hobjects⟩ := Transaction.mk.inj hcopies
  refine ⟨hstore.trans ?_, hobjects.trans ?_, ?_⟩
  · exact DiaryState.foldl_apply (h.pairwise.sublist (Transaction.durable_sublist _)) stored
  · exact DiaryState.foldl_apply (h.pairwise.sublist (Transaction.changes_sublist _)) stored
  · exact h.consistent.nodup.sublist ((List.sublist_append_left _ _).map _)

/-- A deletion deletes the last row and then reads beyond the list: the application is terminated,
and the diary is still stored. A diary whose save throws is lost at the next launch. -/
theorem launches_keep_committed_trap :
    [⟨1, some "", 0, some "Jun 20, 2021", some "rain"⟩,
        ⟨2, some "", 4, some "Jun 21, 2021", some "sun"⟩] =
      DiaryChange.applyAll [] (changeLog ⟨compare, fun _ xs => xs, fun _ xs => .refl xs⟩ []
        [.operation (.saveDiaryData "" 0 "Jun 20, 2021" "rain" false),
          .operation (.saveDiaryData "" 4 "Jun 21, 2021" "sun" false),
          .operation (.getAllItem (some ⟨id, .refl⟩)),
          .operation (.deleteDiary 1 (some ⟨List.reverse, List.reverse_perm⟩) false),
          .operation (.saveDiaryData "" 0 "Jun 22, 2021" "fog" true), .relaunch]).durable :=
  (launches_keep_committed ⟨compare, fun _ xs => xs, fun _ xs => .refl xs⟩ []
    [.operation (.saveDiaryData "" 0 "Jun 20, 2021" "rain" false),
      .operation (.saveDiaryData "" 4 "Jun 21, 2021" "sun" false),
      .operation (.getAllItem (some ⟨id, .refl⟩)),
      .operation (.deleteDiary 1 (some ⟨List.reverse, List.reverse_perm⟩) false),
      .operation (.saveDiaryData "" 0 "Jun 22, 2021" "fog" true), .relaunch]
    _ _ (by decide) rfl).1

end Soliu
