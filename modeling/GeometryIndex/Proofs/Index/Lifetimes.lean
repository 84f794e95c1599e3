import GeometryIndex.Proofs.Index.Rebuilds
import GeometryIndex.Proofs.Index.Steps

/-!
# Indexes — from opening to closing

What an index answers is decided by its history: whether it was closed since it was opened, whether
its map was removed since, and what keys are there.  `Workspace.Sound` is what every step keeps of a
program: above all, the store of an index is closed just if the index is.

* `Workspace.Sound.take`, `Workspace.sound_run`: every step and every run keeps a program sound;
* `Workspace.getElem?_run`, `Workspace.isRemoved_run`: what a run makes of an index and of the map
  behind it;
* `Workspace.exists_opening`: every index was opened at some step of the run;
* `Workspace.presence_follows_history`: what is in its map is what the steps of the run put there;
* `Workspace.answers_follow_history`: so its history decides its answers.
-/

namespace GeometryIndex

namespace Workspace

variable {w : Workspace} {handle : MapHandle} {i : Nat} {ix : Index}

/-! ### What every step keeps -/

/-- A program is sound: its handles and its catalog belong together, and every index has a store of
its own, which is closed just if the index is. -/
structure Sound (w : Workspace) : Prop where
  linked : w.Linked
  reached : Reached w.catalog
  stores : ∀ ix ∈ w.indexes, w.catalog.isStoreClosed ix.store = ix.closed
  apart : (w.indexes.map Index.store).Nodup

theorem sound_start : start.Sound where
  linked := linked_start
  reached := ⟨_, .empty⟩
  stores _ h := absurd h List.not_mem_nil
  apart := List.nodup_nil

/-- What an index is opened with: a store of its own, and a map that is there. -/
structure Fresh (w : Workspace) (ix : Index) (c : Catalog) : Prop where
  store : ix.store = ⟨w.catalog.stores.length⟩
  closed : ix.closed = false
  storeOpen : c.isStoreClosed ix.store = false
  live : c.isRemoved ix.map.map = false

theorem fresh_of_opened {step : Step} (h : Reached w.catalog) (hopened : w.opened? step = some ix) :
    w.Fresh ix (w.take step).catalog := by
  obtain ⟨session, d, table, rfl, hanswer⟩ := exists_of_opened hopened
  obtain ⟨M, hM⟩ := h
  have hcatalog : (w.take (.act (.openIndex session d table))).catalog =
      (session.openIndex d table w.catalog).catalog := catalog_perform_openIndex session d table
  have hopen := Index.isClosed_opened hM hanswer
  rcases session.openIndex_cases d table w.catalog with
    ⟨column, storage, map, log, -, -, -, hok⟩ | ⟨e, herror, -⟩
  · obtain rfl := Except.ok.inj (hok.symm.trans hanswer)
    obtain ⟨hstore, hlive⟩ := Bool.or_eq_false_iff.mp (Index.isClosed_eq_false.mp hopen).2
    exact ⟨rfl, rfl, hcatalog ▸ hstore, hcatalog ▸ hlive⟩
  · rw [herror] at hanswer
    cases hanswer

namespace Sound

/-- The indexes of a program are told apart by their stores. -/
theorem index_eq (h : w.Sound) {j : Nat} {other : Index} (hix : w.indexes[i]? = some ix)
    (hother : w.indexes[j]? = some other) (hstore : other.store = ix.store) : j = i := by
  have hlt : j < (w.indexes.map Index.store).length := by
    rw [List.length_map]
    exact (List.getElem?_eq_some_iff.mp hother).1
  refine (List.getElem?_inj hlt h.apart).mp ?_
  rw [List.getElem?_map, List.getElem?_map, hix, hother]
  exact congrArg some hstore

/-- **Nothing but closing an index closes its store.** -/
theorem closedBy?_iff (h : w.Sound) (hix : w.indexes[i]? = some ix) (step : Step) :
    w.closedBy? step = some ix.store ↔ ix.closed = false ∧ step.closes i = true := by
  cases step with
  | work index session task => simp [closedBy?, Step.closes]
  | markRebuilt index => simp [closedBy?, Step.closes]
  | act action =>
    cases action with
    | closeStore store =>
      have hnot : w.closedBy? (.act (.closeStore store)) ≠ some ix.store := by
        rw [closedBy?]
        split
        · next hallows =>
          -- The store of an index is not for others to close.
          rintro hstore
          obtain rfl := Option.some.inj hstore
          have howns : w.owns ix.store = true :=
            List.any_eq_true.mpr ⟨ix, List.mem_of_getElem? hix, decide_eq_true rfl⟩
          rw [allows, howns] at hallows
          cases hallows
        · exact (Option.some_ne_none _).symm
      simp [hnot, Step.closes]
    | closeIndex index session =>
      refine ⟨fun hcloses => ?_, ?_⟩
      · obtain ⟨other, hother, hstore⟩ := Option.bind_eq_some_iff.mp hcloses
        split at hstore
        · cases hstore
        · next hopen =>
          obtain rfl := h.index_eq hix hother (Option.some.inj hstore)
          obtain rfl := Option.some.inj (hother.symm.trans hix)
          exact ⟨eq_false_of_ne_true hopen, decide_eq_true rfl⟩
      · rintro ⟨hopen, hi⟩
        obtain rfl := of_decide_eq_true hi
        show (w.indexes[index]?).bind _ = _
        rw [hix, Option.bind_some, hopen]
        rfl
    | _ => simp [closedBy?, closedStore?, Step.closes]

theorem stores_take (h : w.Sound) (step : Step) :
    ∀ ix ∈ (w.take step).indexes, (w.take step).catalog.isStoreClosed ix.store = ix.closed := by
  intro ix hix
  rw [indexes_take, List.mem_append] at hix
  rcases hix with hbefore | hnew
  · obtain ⟨i, hi, rfl⟩ := List.mem_mapIdx.mp hbefore
    have hmem := List.getElem_mem hi
    obtain ⟨hhandle, hstore⟩ := h.linked.indexes _ hmem
    have hends := (ends_take h.linked hhandle step).store
    rw [hstore, h.closedBy?_iff (List.getElem?_eq_getElem hi), h.stores _ hmem] at hends
    rw [Bool.eq_iff_iff]
    refine hends.trans ?_
    cases hclosed : w.indexes[i].closed <;> simp [Index.since, hclosed]
  · have hfresh := fresh_of_opened h.reached (Option.mem_toList.mp hnew)
    rw [hfresh.storeOpen, hfresh.closed]

theorem apart_take (h : w.Sound) (step : Step) :
    ((w.take step).indexes.map Index.store).Nodup := by
  have hkept : (w.indexes.mapIdx fun i ix => ix.since i [step]).map Index.store =
      w.indexes.map Index.store := by
    refine List.ext_getElem? fun i => ?_
    simp only [List.getElem?_map, List.getElem?_mapIdx, Option.map_map]
    rfl
  rw [indexes_take, List.map_append, hkept]
  cases hopened : w.opened? step with
  | none => simpa using h.apart
  | some ix =>
    -- The new store is none of those that were there.
    refine List.nodup_append.mpr ⟨h.apart, List.nodup_singleton _, ?_⟩
    simp only [List.forall_mem_map, Option.toList_some, List.map_singleton,
      List.forall_mem_singleton]
    intro other hother hsame
    obtain ⟨hhandle, hstore⟩ := h.linked.indexes other hother
    have hlt := (h.linked.exists_parts hhandle).1
    rw [hstore, hsame, (fresh_of_opened h.reached hopened).store] at hlt
    exact Nat.lt_irrefl _ hlt

theorem take (h : w.Sound) (step : Step) : (w.take step).Sound where
  linked := h.linked.leads (leads_take h.linked step)
  reached := reached_take h.reached step
  stores := h.stores_take step
  apart := h.apart_take step

end Sound

theorem sound_run (h : w.Sound) (steps : List Step) : (w.run steps).Sound := by
  induction steps generalizing w with
  | nil => exact h
  | cons step steps ih => exact ih (h.take step)

theorem handles_run (h : w.Linked) (steps : List Step) : w.handles ⊆ (w.run steps).handles := by
  induction steps generalizing w with
  | nil => exact List.Subset.refl _
  | cons step steps ih =>
    obtain ⟨given, -, hhandles, -⟩ := leads_take h step
    refine List.Subset.trans ?_ (ih (h.leads (leads_take h step)))
    rw [hhandles]
    exact List.subset_append_left _ _

/-! ### What a run makes of an index -/

theorem run_append (w : Workspace) (steps more : List Step) :
    w.run (steps ++ more) = (w.run steps).run more := List.foldl_append

theorem getElem?_take (h : w.indexes[i]? = some ix) (step : Step) :
    (w.take step).indexes[i]? = some (ix.since i [step]) := by
  have hlt : i < (w.indexes.mapIdx fun i ix => ix.since i [step]).length := by
    rw [List.length_mapIdx]
    exact (List.getElem?_eq_some_iff.mp h).1
  rw [indexes_take, List.getElem?_append_left hlt, List.getElem?_mapIdx, h]
  rfl

theorem since_cons (step : Step) (steps : List Step) (ix : Index) :
    (ix.since i [step]).since i steps = ix.since i (step :: steps) := by
  simp [Index.since, Bool.or_assoc, Bool.and_assoc]

theorem since_nil (i : Nat) (ix : Index) : ix.since i [] = ix := by
  simp [Index.since]

/-- **A run closes an index that it closes, marks one that it marks, and changes nothing else about
it.** -/
theorem getElem?_run (h : w.indexes[i]? = some ix) (steps : List Step) :
    (w.run steps).indexes[i]? = some (ix.since i steps) := by
  induction steps generalizing w ix with
  | nil => rw [since_nil, run, List.foldl_nil, h]
  | cons step steps ih =>
    rw [← since_cons]
    exact ih (getElem?_take h step)

/-- **A run removes the maps that its steps remove.** -/
theorem isRemoved_run (h : w.Linked) (hhandle : handle ∈ w.handles) (steps : List Step) :
    (w.run steps).catalog.isRemoved handle.map = true ↔
      w.catalog.isRemoved handle.map = true ∨
        ∃ done step later, steps = done ++ step :: later ∧
          (w.run done).removedBy? step = some handle.map := by
  induction steps generalizing w with
  | nil => simp [run]
  | cons step steps ih =>
    have hlinked := h.leads (leads_take h step)
    have hstill := handles_run h [step] hhandle
    show ((w.take step).run steps).catalog.isRemoved handle.map = true ↔ _
    rw [ih hlinked hstill, (ends_take h hhandle step).map, or_assoc, exists_split_cons]
    rfl

/-- An index after a step was there before, or was opened by the step. -/
theorem before_or_opened {step : Step} (h : (w.take step).indexes[i]? = some ix) :
    (∃ before, w.indexes[i]? = some before ∧ ix = before.since i [step]) ∨
      w.opened? step = some ix ∧ w.indexes.length = i := by
  rw [indexes_take, List.getElem?_append, List.length_mapIdx] at h
  split at h
  · rw [List.getElem?_mapIdx] at h
    obtain ⟨before, hbefore, rfl⟩ := Option.map_eq_some_iff.mp h
    exact .inl ⟨before, hbefore, rfl⟩
  · next hnot =>
    cases hopened : w.opened? step with
    | none => simp [hopened] at h
    | some first =>
      rw [hopened, Option.toList_some, List.getElem?_singleton] at h
      split at h
      · next hi => exact .inr ⟨h, by omega⟩
      · cases h

/-- **Every index was there before a run, or was opened** at some step of it, and is what the steps
since then made of it. -/
theorem exists_opening (steps : List Step) (h : (w.run steps).indexes[i]? = some ix) :
    (∃ before, w.indexes[i]? = some before ∧ ix = before.since i steps) ∨
      ∃ earlier opening later first, steps = earlier ++ opening :: later ∧
        (w.run earlier).opened? opening = some first ∧ (w.run earlier).indexes.length = i ∧
        ix = first.since i later := by
  induction steps generalizing w with
  | nil => exact .inl ⟨ix, h, (since_nil i ix).symm⟩
  | cons step steps ih =>
    rcases ih h with ⟨next, hnext, rfl⟩ | ⟨earlier, opening, later, first, rfl, hrest⟩
    · rcases before_or_opened hnext with ⟨before, hbefore, rfl⟩ | ⟨hopened, hplace⟩
      · exact .inl ⟨before, hbefore, since_cons step steps before⟩
      · exact .inr ⟨[], step, steps, next, rfl, hopened, hplace, rfl⟩
    · exact .inr ⟨step :: earlier, opening, later, first, rfl, hrest⟩

/-! ### What a run leaves in the maps -/

/-- The contents of the maps after steps, as the answers to the steps tell. -/
def contentsFrom (w : Workspace) (M : Contents) : List Step → Contents
  | [] => M
  | step :: steps => (w.take step).contentsFrom (w.follow M step) steps

/-- The contents of the maps after the steps of a program. -/
def contents (steps : List Step) : Contents := start.contentsFrom (fun _ => 0) steps

theorem reachable_run {M : Contents} (h : Catalog.Reachable w.catalog M) (steps : List Step) :
    Catalog.Reachable (w.run steps).catalog (w.contentsFrom M steps) := by
  induction steps generalizing w M with
  | nil => exact h
  | cons step steps ih => exact ih (reachable_take h step)

/-- **What was put into a map is there.**  An index in reach removes a row if and only if the steps
so far, through whatever index or handle, have left the key of the row in the map, unless there are
too many of it for a word of 32 bits. -/
theorem presence_follows_history (steps : List Step) {row : Row} {key : Key}
    (hopen : ix.isClosed (start.run steps).catalog = false) (hkey : ix.key row = .ok key)
    (hfits : (contents steps ix.map.map).count key < UInt32.size) (session : Session) :
    (ix.work session (.remove row) (start.run steps).catalog).error? = none ↔
      key ∈ contents steps ix.map.map := by
  have hreachable : Catalog.Reachable (start.run steps).catalog (contents steps) :=
    reachable_run .empty steps
  rw [← Index.remove_ok_iff hreachable hopen hfits hkey, Index.work, Operation.error?_bind_pure,
    Operation.error?_eq_none]
  constructor
  · rintro ⟨done, hok⟩
    exact hok
  · exact fun hok => ⟨(), hok⟩

/-! ### What decides the answers of an index -/

/-- The history of the index at place `i`: `opening` opened it as `first` after the steps
`earlier`, and since then the steps `later` were taken. -/
structure History (earlier : List Step) (opening : Step) (first : Index) (later : List Step)
    (i : Nat) (ix : Index) : Prop where
  opened : (start.run earlier).opened? opening = some first
  place : (start.run earlier).indexes.length = i
  /-- It is closed if it was closed since then. -/
  closed : ix.closed = true ↔ ∃ step ∈ later, step.closes i = true
  /-- Its map is removed if it was removed since then, through whatever handle. -/
  removed : (start.run (earlier ++ opening :: later)).catalog.isRemoved ix.map.map = true ↔
    ∃ done step rest, later = done ++ step :: rest ∧
      (start.run (earlier ++ opening :: done)).removedBy? step = some ix.map.map
  /-- It needs a rebuild if it did at first, and was not marked as rebuilt since then. -/
  needsRebuild : ix.needsRebuild = true ↔
    first.needsRebuild = true ∧ ∀ step ∈ later, step.marks i = false

/-- What holds of an index at place `i` of a program. -/
structure Governed (w : Workspace) (i : Nat) (ix : Index) : Prop where
  /-- A task fails with the first cause that there is, and succeeds if there is none. -/
  outcome : ∀ session task, (ix.work session task w.catalog).error? = ix.verdict w.catalog task
  isClosed : ix.isClosed w.catalog = true ↔
    ix.closed = true ∨ w.catalog.isRemoved ix.map.map = true
  stays_closed : ix.isClosed w.catalog = true → ∀ steps, ∃ ix',
    (w.run steps).indexes[i]? = some ix' ∧ ix'.isClosed (w.run steps).catalog = true
  close_succeeds : ∀ session, w.error? (.act (.closeIndex i session)) = none
  close_idempotent : ∀ session session',
    (w.take (.act (.closeIndex i session))).take (.act (.closeIndex i session')) =
      w.take (.act (.closeIndex i session))
  flag : ∀ step, ∃ ix', (w.take step).indexes[i]? = some ix' ∧
    (ix'.needsRebuild ≠ ix.needsRebuild →
      ix.needsRebuild = true ∧ ix'.needsRebuild = false ∧ step = .markRebuilt i)

/-- Closing an index that is closed changes nothing. -/
theorem take_close_of_closed (h : w.indexes[i]? = some ix) (hclosed : ix.closed = true)
    (session : Session) : w.take (.act (.closeIndex i session)) = w := by
  have hset : w.indexes.set i ix = w.indexes := by
    obtain ⟨hi, rfl⟩ := List.getElem?_eq_some_iff.mp h
    exact List.set_getElem_self hi
  have hclose := Index.close_of_closed hclosed session w.catalog
  show w.onIndex i _ _ = w
  simp only [onIndex, h]
  rw [operate_of_ok (by rw [hclose]), hclose, hset]

theorem eq_markRebuilt_of_marks {step : Step} (h : step.marks i = true) :
    step = .markRebuilt i := by
  cases step with
  | markRebuilt index => exact congrArg _ (of_decide_eq_true h)
  | act action => cases h
  | work index session task => cases h

/-- The mark of an index is only ever taken away, and only by marking it as rebuilt. -/
theorem needsRebuild_since {step : Step}
    (hne : (ix.since i [step]).needsRebuild ≠ ix.needsRebuild) :
    ix.needsRebuild = true ∧ (ix.since i [step]).needsRebuild = false ∧
      step = .markRebuilt i := by
  cases hmarks : step.marks i with
  | false => exact absurd (by simp [Index.since, hmarks]) hne
  | true =>
    cases hflag : ix.needsRebuild with
    | false => exact absurd (by simp [Index.since, hflag]) hne
    | true => exact ⟨rfl, by simp [Index.since, hmarks], eq_markRebuilt_of_marks hmarks⟩

namespace Sound

theorem sorted (h : w.Sound) (map : MapId) : Entries.Sorted (w.catalog.entries map).counts := by
  obtain ⟨M, hM⟩ := h.reached
  exact (hM.holds.entries map).sorted

theorem isStoreClosed_map (h : w.Sound) (hix : w.indexes[i]? = some ix) :
    w.catalog.isStoreClosed ix.map.store = ix.closed := by
  have hmem := List.mem_of_getElem? hix
  rw [(h.linked.indexes ix hmem).2]
  exact h.stores ix hmem

/-- An index is out of reach just if it is closed or its map is removed. -/
theorem isClosed_iff (h : w.Sound) (hix : w.indexes[i]? = some ix) :
    ix.isClosed w.catalog = true ↔
      ix.closed = true ∨ w.catalog.isRemoved ix.map.map = true := by
  rw [Index.isClosed, Catalog.isClosed, h.isStoreClosed_map hix]
  simp

/-- An index that is out of reach stays so. -/
theorem isClosed_run (h : w.Sound) (hix : w.indexes[i]? = some ix)
    (hclosed : ix.isClosed w.catalog = true) (steps : List Step) :
    (ix.since i steps).isClosed (w.run steps).catalog = true := by
  rw [(sound_run h steps).isClosed_iff (getElem?_run hix steps)]
  rcases (h.isClosed_iff hix).mp hclosed with hindex | hremoved
  · refine .inl ?_
    simp [Index.since, hindex]
  · have hhandle := (h.linked.indexes ix (List.mem_of_getElem? hix)).1
    exact .inr ((isRemoved_run h.linked hhandle steps).mpr (.inl hremoved))

theorem governed (h : w.Sound) (hix : w.indexes[i]? = some ix) : w.Governed i ix where
  outcome := Index.error?_work (fun hopen => (h.isStoreClosed_map hix).trans hopen) (h.sorted _)
  isClosed := h.isClosed_iff hix
  stays_closed hclosed steps :=
    ⟨_, getElem?_run hix steps, h.isClosed_run hix hclosed steps⟩
  close_succeeds session := by
    show (w.indexes[i]?).bind _ = none
    rw [hix, Option.bind_some]
    exact Operation.error?_eq_none.mpr ⟨_, close_since i session ix⟩
  close_idempotent session session' := by
    refine take_close_of_closed (getElem?_take hix _) ?_ session'
    simp [Index.since, Step.closes]
  flag step := ⟨_, getElem?_take hix step, needsRebuild_since⟩

end Sound

theorem mem_indexes_of_opened {step : Step} (h : w.opened? step = some ix) :
    ix ∈ (w.take step).indexes := by
  rw [indexes_take, h]
  exact List.mem_append_right _ List.mem_cons_self

/-- The map that an index was opened with is removed if a step since then removed it. -/
theorem Sound.isRemoved_since_opening (h : w.Sound) {opening : Step}
    (hopened : w.opened? opening = some ix) (later : List Step) :
    (w.run (opening :: later)).catalog.isRemoved ix.map.map = true ↔
      ∃ done step rest, later = done ++ step :: rest ∧
        (w.run (opening :: done)).removedBy? step = some ix.map.map := by
  have hafter := (h.take opening).linked
  have hhandle := (hafter.indexes ix (mem_indexes_of_opened hopened)).1
  refine (isRemoved_run hafter hhandle later).trans ?_
  rw [(fresh_of_opened h.reached hopened).live]
  simp only [Bool.false_eq_true, false_or]
  rfl

/-- **The history of an index decides its answers.**  After any steps, every index was opened by
one of them.  It is closed if it was closed since, and its map is gone if a step since removed it,
through this or any other handle.  A task fails with the first cause that there is, of closure,
decoding, removal of the map and absence of the key, and succeeds if there is none.  A key is absent
if the map does not have it, and `presence_follows_history` says which keys the steps have left
there.  Closing succeeds, and closing again changes nothing; what is out of reach stays so; and the
mark for a rebuild goes away only when this index is marked as rebuilt.  A step that fails, of
whatever kind, leaves everything as it was. -/
theorem answers_follow_history (steps : List Step) (i : Nat) (ix : Index)
    (hix : (start.run steps).indexes[i]? = some ix) :
    (∃ earlier opening first later, steps = earlier ++ opening :: later ∧
        History earlier opening first later i ix) ∧
      (start.run steps).Governed i ix ∧
      ∀ step e, (start.run steps).error? step = some e →
        (start.run steps).take step = start.run steps := by
  refine ⟨?_, (sound_run sound_start steps).governed hix, fun step e => take_of_error⟩
  rcases exists_opening steps hix with
    ⟨before, hbefore, -⟩ | ⟨earlier, opening, later, first, rfl, hopened, hplace, rfl⟩
  · cases hbefore
  · have hsound := sound_run sound_start earlier
    refine ⟨earlier, opening, first, later, rfl, hopened, hplace, ?_, ?_, ?_⟩
    · rw [Index.since, (fresh_of_opened hsound.reached hopened).closed]
      simp
    · simp only [run_append]
      exact hsound.isRemoved_since_opening hopened later
    · simp [Index.since]

/-- Two indexes over one map.  One of them has a key added and the other one is dropped. -/
def sharedHistory : List Step :=
  [.act (.openIndex .sample .sample "T"), .act (.openIndex .sample .sample "T"),
    .work 0 .sample (.add ⟨1, []⟩), .act (.dropIndex 1 .sample)]

/-- The other index is not closed, but its map is gone. -/
theorem answers_follow_history_shared :
    (start.run sharedHistory).indexes[0]? = some (.sample ⟨0⟩) ∧
      (Index.sample ⟨0⟩).isClosed (start.run sharedHistory).catalog = true ∧
      ∀ session,
        ((Index.sample ⟨0⟩).work session (.remove ⟨1, []⟩)
          (start.run sharedHistory).catalog).error? = some (.closed (.map "RTREE_3")) ∧
        ((Index.sample ⟨0⟩).work session (.remove ⟨1, [.null, .varchar "here"]⟩)
          (start.run sharedHistory).catalog).error? = some (.decode (.valueType .varchar)) := by
  have hix : (start.run sharedHistory).indexes[0]? = some (.sample ⟨0⟩) := rfl
  obtain ⟨-, hgoverned, -⟩ := answers_follow_history sharedHistory 0 (.sample ⟨0⟩) hix
  refine ⟨hix, hgoverned.isClosed.mpr (.inr rfl), fun session => ⟨?_, ?_⟩⟩
  · rw [hgoverned.outcome]
    rfl
  · rw [hgoverned.outcome]
    rfl

end Workspace

end GeometryIndex
