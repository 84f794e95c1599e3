import GeometryIndex.Proofs.Index.Closings
import GeometryIndex.Proofs.Index.Histories
import GeometryIndex.Proofs.Index.Outcomes

/-!
# Indexes — steps of a program

A step of a program is an action in its workspace, a task of an index, or the mark that an index was
rebuilt.  The store of an index is its own: only the index closes it.

* `Workspace.take_of_error`: a step that fails leaves the workspace as it was;
* `Workspace.indexes_take`: what a step makes of every index (`Index.since`), and which index it
  opens;
* `Workspace.reachable_take`: what a step leaves in the maps, as its answer tells;
* `Workspace.ends_take`: which store a step closes, and which map it removes.
-/

namespace GeometryIndex

open Catalog (Reachable)

/-- A step of a program with a workspace. -/
inductive Step
  | act (action : Action)
  | work (index : Nat) (session : Session) (task : Index.Task)
  | markRebuilt (index : Nat)

namespace Step

/-- The step closes the index at a place. -/
def closes (i : Nat) : Step → Bool
  | .act (.closeIndex index _) => index = i
  | _ => false

/-- The step marks the index at a place as rebuilt. -/
def marks (i : Nat) : Step → Bool
  | .markRebuilt index => index = i
  | _ => false

end Step

/-- The index at place `i`, after it was as given and then some steps were taken: it is closed if
one of them closes it, and needs no rebuild if one of them says so. -/
def Index.since (i : Nat) (steps : List Step) (ix : Index) : Index :=
  { ix with
    closed := ix.closed || steps.any (Step.closes i)
    needsRebuild := ix.needsRebuild && !steps.any (Step.marks i) }

namespace Workspace

variable {w : Workspace} {handle : MapHandle} {α : Type}

/-- A store belongs to an index. -/
def owns (w : Workspace) (store : StoreId) : Bool := w.indexes.any fun ix => ix.store = store

/-- An action can be taken by a program.  The store of an index was opened for the index alone, so
nobody else can close it. -/
def allows (w : Workspace) : Action → Bool
  | .closeStore store => !w.owns store
  | _ => true

/-- The workspace after a step. -/
def take (w : Workspace) : Step → Workspace
  | .act action => if w.allows action then w.perform action else w
  | .work index session task => w.onIndex index (fun ix => ix.work session task) fun _ => id
  | .markRebuilt index =>
    w.onIndex index Index.markRebuilt fun ix w => { w with indexes := w.indexes.set index ix }

/-- The workspace after several steps, taken one after the other. -/
def run (w : Workspace) (steps : List Step) : Workspace := steps.foldl take w

/-! ### Steps that fail -/

/-- What an operation fails with, on the handle at the given place. -/
def throughError? (w : Workspace) (handle : Nat) (op : MapHandle → Operation α) : Option Error :=
  (w.handles[handle]?).bind fun g => (op g w.catalog).error?

/-- What an operation fails with, on the index at the given place. -/
def onIndexError? (w : Workspace) (index : Nat) (op : Index → Operation α) : Option Error :=
  (w.indexes[index]?).bind fun ix => (op ix w.catalog).error?

/-- What an action fails with, if it does. -/
def actionError? (w : Workspace) : Action → Option Error
  | .openStore name => ((Storage.named name).openStore w.catalog).error?
  | .openEphemeral => (Storage.openEphemeral w.catalog).error?
  | .openBeside store => ((store.storage >>= Storage.openStore) w.catalog).error?
  | .closeStore store => (store.close w.catalog).error?
  | .openMap store name => (store.openMap name w.catalog).error?
  | .removeMap store handle => w.throughError? handle store.removeMap
  | .add handle key => w.throughError? handle fun handle => handle.add key
  | .remove handle key => w.throughError? handle fun handle => handle.remove key
  | .clear handle => w.throughError? handle MapHandle.clear
  | .openIndex session declaration table =>
    (session.openIndex declaration table w.catalog).error?
  | .closeIndex index session => w.onIndexError? index fun ix => ix.close session
  | .dropIndex index session => w.onIndexError? index fun ix => ix.drop session

/-- What a step fails with, if it does. -/
def error? (w : Workspace) : Step → Option Error
  | .act action => w.actionError? action
  | .work index session task => w.onIndexError? index fun ix => ix.work session task
  | .markRebuilt index => w.onIndexError? index Index.markRebuilt

variable {e : Error}

theorem operate_of_atomic {op : Operation α} (hatomic : op.Atomic)
    (h : (op w.catalog).error? = some e) (next : α → Workspace → Workspace) :
    w.operate op next = w := by
  rw [operate_of_error (Operation.error?_eq_some.mp h), hatomic _ _ h]

theorem through_of_atomic {handle : Nat} {op : MapHandle → Operation α}
    (hatomic : ∀ g, (op g).Atomic) (h : w.throughError? handle op = some e) :
    w.through handle op = w := by
  obtain ⟨g, hg, herror⟩ := Option.bind_eq_some_iff.mp h
  simp only [through, hg]
  exact operate_of_atomic (hatomic g) herror _

theorem onIndex_of_atomic {index : Nat} {op : Index → Operation α} (hatomic : ∀ ix, (op ix).Atomic)
    (h : w.onIndexError? index op = some e) (next : α → Workspace → Workspace) :
    w.onIndex index op next = w := by
  obtain ⟨ix, hix, herror⟩ := Option.bind_eq_some_iff.mp h
  simp only [onIndex, hix]
  exact operate_of_atomic (hatomic ix) herror _

theorem perform_of_error {action : Action} (h : w.actionError? action = some e) :
    w.perform action = w := by
  cases action with
  | openStore name => cases h
  | openEphemeral => cases h
  | openBeside store => exact operate_of_atomic store.openBeside_atomic h _
  | closeStore store => cases h
  | openMap store name =>
    rw [perform]
    exact operate_of_atomic (store.openMap_atomic name) h _
  | removeMap store handle => exact through_of_atomic (fun g => store.removeMap_atomic g) h
  | add handle key => exact through_of_atomic (fun g => g.add_atomic key) h
  | remove handle key => exact through_of_atomic (fun g => g.remove_atomic key) h
  | clear handle => exact through_of_atomic (fun g => g.clear_atomic) h
  | openIndex session d table =>
    rw [perform]
    exact operate_of_atomic (session.openIndex_atomic d table) h _
  | closeIndex index session => exact onIndex_of_atomic (fun ix => ix.close_atomic session) h _
  | dropIndex index session => exact onIndex_of_atomic (fun ix => ix.drop_atomic session) h _

/-- **A step that fails leaves the workspace as it was**: all catalog, handles and indexes. -/
theorem take_of_error {step : Step} (h : w.error? step = some e) : w.take step = w := by
  cases step with
  | act action =>
    rw [take]
    split
    · exact perform_of_error h
    · rfl
  | work index session task => exact onIndex_of_atomic (fun ix => ix.work_atomic session task) h _
  | markRebuilt index =>
    obtain ⟨ix, -, herror⟩ := Option.bind_eq_some_iff.mp h
    rw [Index.markRebuilt_eq] at herror
    cases herror

/-! ### What a step makes of the indexes -/

/-- The index that a step opens, if it does. -/
def opened? (w : Workspace) : Step → Option Index
  | .act (.openIndex session declaration table) =>
    (session.openIndex declaration table w.catalog).answer.toOption
  | _ => none

theorem exists_of_opened {step : Step} {ix : Index} (h : w.opened? step = some ix) :
    ∃ session declaration table, step = .act (.openIndex session declaration table) ∧
      (session.openIndex declaration table w.catalog).answer = .ok ix := by
  unfold opened? at h
  split at h
  · next session declaration table =>
    cases hanswer : (session.openIndex declaration table w.catalog).answer with
    | ok opened =>
      rw [hanswer] at h
      exact ⟨session, declaration, table, rfl, hanswer.trans (congrArg _ (Option.some.inj h))⟩
    | error e =>
      rw [hanswer] at h
      cases h
  · cases h

theorem since_of_quiet {step : Step} {i : Nat} (hcloses : step.closes i = false)
    (hmarks : step.marks i = false) (ix : Index) : ix.since i [step] = ix := by
  simp [Index.since, hcloses, hmarks]

theorem mapIdx_since_of_quiet {step : Step} (hcloses : ∀ i, step.closes i = false)
    (hmarks : ∀ i, step.marks i = false) (indexes : List Index) :
    (indexes.mapIdx fun i ix => ix.since i [step]) = indexes := by
  refine List.ext_getElem? fun i => ?_
  rw [List.getElem?_mapIdx]
  simp [since_of_quiet (hcloses i) (hmarks i)]

theorem indexes_operate {op : Operation α} {next : α → Workspace → Workspace}
    (hnext : ∀ a w, (next a w).indexes = w.indexes) : (w.operate op next).indexes = w.indexes := by
  cases hanswer : (op w.catalog).answer with
  | ok a => rw [operate_of_ok hanswer, hnext]
  | error e => rw [operate_of_error hanswer]

theorem indexes_through {handle : Nat} {op : MapHandle → Operation α} :
    (w.through handle op).indexes = w.indexes := by
  unfold through
  split
  · exact indexes_operate fun _ _ => rfl
  · rfl

theorem indexes_onIndex {index : Nat} {op : Index → Operation α} :
    (w.onIndex index op fun _ => id).indexes = w.indexes := by
  unfold onIndex
  split
  · exact indexes_operate fun _ _ => rfl
  · rfl

/-- An operation on an index that always answers the index as it is afterwards. -/
theorem indexes_onIndex_set {index : Nat} {op : Index → Operation Index} {f : Index → Index}
    (hop : ∀ ix, (op ix w.catalog).answer = .ok (f ix)) :
    (w.onIndex index op fun ix w => { w with indexes := w.indexes.set index ix }).indexes =
      w.indexes.modify index f := by
  rw [onIndex, List.modify_eq_set_getElem?]
  cases w.indexes[index]? with
  | none => rfl
  | some ix =>
    simp only [operate_of_ok (hop ix)]
    rfl

/-- A step that closes, marks and opens no index makes nothing of them. -/
theorem indexes_of_quiet {w' : Workspace} {step : Step} (hsame : w'.indexes = w.indexes)
    (hcloses : ∀ i, step.closes i = false) (hmarks : ∀ i, step.marks i = false)
    (hopened : w.opened? step = none) : w'.indexes =
      (w.indexes.mapIdx fun i ix => ix.since i [step]) ++ (w.opened? step).toList := by
  rw [hsame, mapIdx_since_of_quiet hcloses hmarks, hopened, Option.toList_none, List.append_nil]

/-- A step that closes and marks one index at most, and opens none, makes something of that one. -/
theorem indexes_of_modify {w' : Workspace} {step : Step} {index : Nat}
    (hmodify : w'.indexes = w.indexes.modify index (Index.since index [step]))
    (hcloses : ∀ i, index ≠ i → step.closes i = false)
    (hmarks : ∀ i, index ≠ i → step.marks i = false) (hopened : w.opened? step = none) :
    w'.indexes =
      (w.indexes.mapIdx fun i ix => ix.since i [step]) ++ (w.opened? step).toList := by
  rw [hmodify, hopened, Option.toList_none, List.append_nil]
  refine List.ext_getElem? fun i => ?_
  rw [List.getElem?_mapIdx, List.getElem?_modify]
  by_cases hi : index = i
  · subst hi
    simp
  · simp [hi, since_of_quiet (hcloses i hi) (hmarks i hi)]

theorem close_since (index : Nat) (session : Session) (ix : Index) :
    (ix.close session w.catalog).answer =
      .ok (ix.since index [.act (.closeIndex index session)]) := by
  cases hclosed : ix.closed with
  | true =>
    rw [Index.close_of_closed hclosed]
    cases ix
    simp_all [Index.since, Step.closes, Step.marks]
  | false =>
    rw [Index.close_of_open hclosed]
    simp [Index.since, Step.closes, Step.marks]

theorem markRebuilt_since (index : Nat) (ix : Index) :
    (ix.markRebuilt w.catalog).answer = .ok (ix.since index [.markRebuilt index]) := by
  rw [Index.markRebuilt_eq]
  simp [Index.since, Step.closes, Step.marks]

theorem take_markRebuilt (w : Workspace) (index : Nat) :
    w.take (.markRebuilt index) =
      { w with indexes := w.indexes.modify index (Index.since index [.markRebuilt index]) } := by
  rw [take, onIndex, List.modify_eq_set_getElem?]
  cases w.indexes[index]? with
  | none => rfl
  | some ix =>
    simp only [operate_of_ok (markRebuilt_since index ix), Index.markRebuilt_eq]
    rfl

theorem indexes_perform (w : Workspace) (action : Action) :
    (w.perform action).indexes =
      (w.indexes.mapIdx fun i ix => ix.since i [.act action]) ++
        (w.opened? (.act action)).toList := by
  have quiet (hsame : (w.perform action).indexes = w.indexes)
      (hcloses : ∀ i, (Step.act action).closes i = false)
      (hopened : w.opened? (.act action) = none) :=
    indexes_of_quiet hsame hcloses (fun _ => rfl) hopened
  cases action with
  | openStore name => exact quiet (indexes_operate fun _ _ => rfl) (fun _ => rfl) rfl
  | openEphemeral => exact quiet (indexes_operate fun _ _ => rfl) (fun _ => rfl) rfl
  | openBeside store => exact quiet (indexes_operate fun _ _ => rfl) (fun _ => rfl) rfl
  | closeStore store => exact quiet (indexes_operate fun _ _ => rfl) (fun _ => rfl) rfl
  | openMap store name => exact quiet (indexes_operate fun _ _ => rfl) (fun _ => rfl) rfl
  | removeMap store handle => exact quiet indexes_through (fun _ => rfl) rfl
  | add handle key => exact quiet indexes_through (fun _ => rfl) rfl
  | remove handle key => exact quiet indexes_through (fun _ => rfl) rfl
  | clear handle => exact quiet indexes_through (fun _ => rfl) rfl
  | dropIndex index session => exact quiet indexes_onIndex (fun _ => rfl) rfl
  | openIndex session d table =>
    rw [mapIdx_since_of_quiet (fun _ => rfl) (fun _ => rfl), opened?, perform]
    cases hanswer : (session.openIndex d table w.catalog).answer with
    | ok ix =>
      rw [operate_of_ok hanswer]
      rfl
    | error e =>
      rw [operate_of_error hanswer]
      exact (List.append_nil _).symm
  | closeIndex index session =>
    exact indexes_of_modify (indexes_onIndex_set (close_since index session))
      (fun _ hi => decide_eq_false hi) (fun _ _ => rfl) rfl

/-- **What a step makes of the indexes**: each is as it was since the step, and the one that the
step opens comes last. -/
theorem indexes_take (w : Workspace) (step : Step) :
    (w.take step).indexes =
      (w.indexes.mapIdx fun i ix => ix.since i [step]) ++ (w.opened? step).toList := by
  cases step with
  | act action =>
    rw [take]
    split
    · exact indexes_perform w action
    · -- Only the closing of a store can be impossible.
      next hnot =>
      cases action with
      | closeStore store => exact indexes_of_quiet rfl (fun _ => rfl) (fun _ => rfl) rfl
      | _ => exact absurd rfl hnot
  | work index session task =>
    exact indexes_of_quiet indexes_onIndex (fun _ => rfl) (fun _ => rfl) rfl
  | markRebuilt index =>
    exact indexes_of_modify (congrArg indexes (take_markRebuilt w index)) (fun _ _ => rfl)
      (fun _ hi => decide_eq_false hi) rfl

end Workspace

/-! ### What steps leave in the maps -/

namespace Catalog.Reachable

variable {c : Catalog} {M : Contents}

theorem openBeside (h : Reachable c M) (store : StoreId) :
    Reachable ((store.storage >>= Storage.openStore) c).catalog M := by
  cases hs : c.stores[store.number]? with
  | none =>
    rw [StoreId.openBeside_of_none hs]
    exact h
  | some s =>
    rw [StoreId.openBeside_of_some hs]
    exact h.openStore s.storage (h.wellFormed.stores s (List.mem_of_getElem? hs))

/-- A key that is not there is removed from nowhere. -/
theorem remove_of_false (h : Reachable c M) {g : MapHandle} {key : Key}
    (hok : (g.remove key c).answer = .ok false) : Reachable (g.remove key c).catalog M := by
  have hopen := MapHandle.isClosed_of_ok hok
  cases herase : (c.entries g.map).erase? key with
  | none =>
    rw [MapHandle.remove_of_none hopen herase]
    exact h
  | some left =>
    rw [MapHandle.remove_of_some hopen herase] at hok
    cases hok

end Catalog.Reachable

/-- A task as a request. -/
def Index.Task.request (session : Session) : Index.Task → IndexRequest
  | .add row => .add session row
  | .remove row => .remove session row
  | .find => .find session
  | .search row => .search session row
  | .truncate => .truncate session

theorem Catalog.Reachable.work {c : Catalog} {M : Contents} (h : Reachable c M) {ix : Index}
    {session : Session} {task : Index.Task} {cursor : Option Cursor}
    (hok : (ix.work session task c).answer = .ok cursor) :
    Reachable (ix.work session task c).catalog
      (Function.update M ix.map.map ((task.request session).effect ix (M ix.map.map))) := by
  cases task with
  | add row =>
    obtain ⟨_, hdone⟩ := Operation.exists_of_bind_pure_ok hok
    rw [Index.work, Operation.catalog_bind_pure]
    rcases h.addRow ix session row with ⟨key, hkey, -, hreachable⟩ | ⟨e, herror, -⟩
    · simpa [Index.Task.request, IndexRequest.effect, hkey] using hreachable
    · rw [herror] at hdone
      cases hdone
  | remove row =>
    obtain ⟨_, hdone⟩ := Operation.exists_of_bind_pure_ok hok
    rw [Index.work, Operation.catalog_bind_pure]
    rcases h.removeRow ix session row with ⟨key, hkey, -, hreachable⟩ | ⟨e, herror, -⟩
    · simpa [Index.Task.request, IndexRequest.effect, hkey] using hreachable
    · rw [herror] at hdone
      cases hdone
  | truncate =>
    obtain ⟨_, hdone⟩ := Operation.exists_of_bind_pure_ok hok
    rw [Index.work, Operation.catalog_bind_pure]
    rcases h.truncateIndex ix session with ⟨-, hreachable⟩ | ⟨e, herror, -⟩
    · exact hreachable
    · rw [herror] at hdone
      cases hdone
  | find =>
    rw [Index.work, Operation.catalog_bind_pure, ix.find_catalog]
    simpa [Index.Task.request, IndexRequest.effect] using h
  | search row =>
    rw [Index.work, Operation.catalog_bind_pure, ix.search_catalog]
    simpa [Index.Task.request, IndexRequest.effect] using h

namespace Workspace

variable {w : Workspace} {handle : MapHandle} {α : Type} {M : Contents}

/-- The contents after an operation on something at a place: only one that succeeds changes them. -/
def followOne {β : Type} (w : Workspace) (M : Contents) (found : Option β) (op : β → Operation α)
    (next : β → α → Contents) : Contents :=
  match found with
  | some b =>
    match (op b w.catalog).answer with
    | .ok a => next b a
    | .error _ => M
  | none => M

/-- The contents of the maps after a step, as the answer to the step tells. -/
def follow (w : Workspace) (M : Contents) : Step → Contents
  | .act (.add handle key) =>
    w.followOne M w.handles[handle]? (fun g => g.add key) fun g _ =>
      Function.update M g.map (key ::ₘ M g.map)
  | .act (.remove handle key) =>
    w.followOne M w.handles[handle]? (fun g => g.remove key) fun g removed =>
      if removed then Function.update M g.map ((M g.map).erase key) else M
  | .act (.clear handle) =>
    w.followOne M w.handles[handle]? MapHandle.clear fun g _ => Function.update M g.map 0
  | .work index session task =>
    w.followOne M w.indexes[index]? (fun ix => ix.work session task) fun ix _ =>
      Function.update M ix.map.map ((task.request session).effect ix (M ix.map.map))
  | _ => M

theorem catalog_through (number : Nat) (op : MapHandle → Operation α) :
    (w.through number op).catalog =
      w.handles[number]?.elim w.catalog fun g => (op g w.catalog).catalog := by
  rw [through]
  cases w.handles[number]? with
  | none => rfl
  | some g => exact catalog_operate_id _

theorem catalog_onIndex {index : Nat} {op : Index → Operation α} {next : α → Workspace → Workspace}
    (hnext : ∀ a w, (next a w).catalog = w.catalog) :
    (w.onIndex index op next).catalog =
      w.indexes[index]?.elim w.catalog fun ix => (op ix w.catalog).catalog := by
  rw [onIndex]
  cases w.indexes[index]? with
  | none => rfl
  | some ix => exact catalog_operate hnext

section

variable {β : Type} (found : Option β) {op : β → Operation α}

/-- An operation that leaves the contents, on something at a place. -/
theorem reachable_elim (h : Reachable w.catalog M)
    (hop : ∀ b, Reachable (op b w.catalog).catalog M) :
    Reachable (found.elim w.catalog fun b => (op b w.catalog).catalog) M := by
  cases found with
  | none => exact h
  | some b => exact hop b

/-- An operation that changes nothing if it fails, on something at a place. -/
theorem reachable_followOne {next : β → α → Contents} (h : Reachable w.catalog M)
    (hatomic : ∀ b, (op b).Atomic)
    (hok : ∀ b a, (op b w.catalog).answer = .ok a → Reachable (op b w.catalog).catalog (next b a)) :
    Reachable (found.elim w.catalog fun b => (op b w.catalog).catalog)
      (w.followOne M found op next) := by
  cases found with
  | none => exact h
  | some b =>
    cases hanswer : (op b w.catalog).answer with
    | ok a => simpa only [followOne, hanswer, Option.elim_some] using hok b a hanswer
    | error e =>
      have hsame := hatomic b _ e (Operation.error?_eq_some.mpr hanswer)
      simpa only [followOne, hanswer, Option.elim_some, hsame] using h

end

theorem reachable_perform (h : Reachable w.catalog M) (action : Action) :
    Reachable (w.perform action).catalog (w.follow M (.act action)) := by
  cases action with
  | openStore name =>
    rw [perform, catalog_operate_id]
    exact h.openStore (.named name) fun _ hn => by cases hn
  | openEphemeral =>
    rw [perform, catalog_operate_id]
    exact h.openEphemeral
  | openBeside store =>
    rw [perform, catalog_operate_id]
    exact h.openBeside store
  | closeStore store =>
    rw [perform, catalog_operate_id]
    exact h.close store
  | openMap store name =>
    rw [catalog_perform_openMap]
    exact h.openMap store name
  | removeMap store handle =>
    rw [perform, catalog_through]
    exact reachable_elim _ h fun g => h.removeMap store g
  | add handle key =>
    rw [perform, catalog_through]
    exact reachable_followOne _ h (fun g => g.add_atomic key) fun g _ hok => h.add g key hok
  | remove handle key =>
    rw [perform, catalog_through]
    refine reachable_followOne _ h (fun g => g.remove_atomic key) fun g removed hok => ?_
    cases removed with
    | true => exact h.remove g key hok
    | false => exact h.remove_of_false hok
  | clear handle =>
    rw [perform, catalog_through]
    exact reachable_followOne _ h (fun g => g.clear_atomic) fun g _ hok => h.clear g hok
  | openIndex session d table =>
    rw [catalog_perform_openIndex]
    exact h.openIndex session d table
  | closeIndex index session =>
    rw [perform, catalog_onIndex]
    · exact reachable_elim _ h fun ix => h.closeIndex ix session
    · exact fun _ _ => rfl
  | dropIndex index session =>
    rw [perform, catalog_onIndex]
    · exact reachable_elim _ h fun ix => h.dropIndex ix session
    · exact fun _ _ => rfl

/-- **What a step leaves in the maps** is told by its answer. -/
theorem reachable_take (h : Reachable w.catalog M) (step : Step) :
    Reachable (w.take step).catalog (w.follow M step) := by
  cases step with
  | act action =>
    rw [take]
    split
    · exact reachable_perform h action
    · next hnot =>
      cases action with
      | closeStore store => exact h
      | _ => exact absurd rfl hnot
  | work index session task =>
    rw [take, catalog_onIndex]
    · exact reachable_followOne _ h (fun ix => ix.work_atomic session task)
        fun ix _ hok => h.work hok
    · exact fun _ _ => rfl
  | markRebuilt index =>
    rw [take_markRebuilt]
    exact h

/-- The catalog is one that operations lead to. -/
def Reached (c : Catalog) : Prop := ∃ M, Reachable c M

theorem reached_take (h : Reached w.catalog) (step : Step) : Reached (w.take step).catalog := by
  obtain ⟨M, hM⟩ := h
  exact ⟨_, reachable_take hM step⟩

/-! ### What a step ends -/

/-- The store that a step closes, if any. -/
def closedBy? (w : Workspace) : Step → Option StoreId
  | .act action => if w.allows action then w.closedStore? action else none
  | _ => none

/-- The map that a step removes, if any. -/
def removedBy? (w : Workspace) : Step → Option MapId
  | .act action => w.removedMap? action
  | _ => none

/-- A step leaves a workspace linked, and keeps the handles that were given out. -/
theorem leads_take (h : w.Linked) (step : Step) : w.Leads (w.take step) := by
  cases step with
  | act action =>
    rw [take]
    split
    · exact leads_perform h.handles.wellFormed action
    · exact leads_refl w
  | work index session task =>
    rw [take, onIndex]
    split
    · next ix _ => exact leads_operate (ix.work_refills session task _).changes
    · exact leads_refl w
  | markRebuilt index =>
    refine ⟨[], ?_, ?_, fun ix hix => .inl ?_⟩
    · rw [take_markRebuilt]
      exact .refl _
    · rw [take_markRebuilt, List.append_nil]
    · have hnone : w.opened? (.markRebuilt index) = none := rfl
      rw [indexes_take, hnone, Option.toList_none, List.append_nil] at hix
      obtain ⟨i, hi, rfl⟩ := List.mem_mapIdx.mp hix
      exact ⟨_, List.getElem_mem hi, rfl⟩

theorem ends_take (h : w.Linked) (hhandle : handle ∈ w.handles) (step : Step) :
    w.Ends handle (w.closedBy? step) (w.removedBy? step) (w.take step).catalog := by
  cases step with
  | act action =>
    rw [closedBy?, removedBy?, take]
    cases hallows : w.allows action with
    | true => exact h.ends_perform hhandle action
    | false =>
      cases action with
      | closeStore store => exact ends_nothing w
      | _ => cases hallows
  | work index session task =>
    refine .of_spares ?_
    rw [take, onIndex]
    split
    · rw [catalog_operate_id]
      exact spares_of_refills (Index.work_refills _ session task _)
    · exact spares_refl _
  | markRebuilt index =>
    rw [take_markRebuilt]
    exact ends_nothing w

end Workspace

end GeometryIndex
