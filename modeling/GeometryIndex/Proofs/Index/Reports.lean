import GeometryIndex.Proofs.Index.Effects

/-!
# Indexes — what operations write

An operation that is refused, because the index was closed or because a row does not decode, is
refused before it writes anything (`Operation.Orderly`).  It may still write and then fail, if the
map behind the index is closed.

Most operations write routine entries only.  Errors and notices come from three of them:

* `Index.remove_reports`: removing a row, if it is missing;
* `Index.markRebuilt_eq`: marking an index as rebuilt, if it had to be;
* `Session.openIndex_reports`: opening an index again, if it has to be.
-/

namespace GeometryIndex

open Catalog

/-- The error says that the index was closed, or that a row does not decode. -/
def Error.isRefusal : Error → Bool
  | .closed (.index _) => true
  | .decode _ => true
  | _ => false

/-- The entry is neither an error nor a notice. -/
def LogEntry.isRoutine (entry : LogEntry) : Bool :=
  decide (entry.level = .trace) || decide (entry.level = .debug)

/-- The entries of a level, in order. -/
def entriesAt (level : Level) (log : List LogEntry) : List LogEntry :=
  log.filter fun entry => decide (entry.level = level)

theorem entriesAt_routine {level : Level} {log : List LogEntry}
    (h : ∀ entry ∈ log, entry.isRoutine = true) (hlevel : level = .error ∨ level = .info) :
    entriesAt level log = [] := by
  refine List.filter_eq_nil_iff.mpr fun entry hentry => ?_
  have hroutine := h entry hentry
  rw [LogEntry.isRoutine] at hroutine
  rcases hlevel with rfl | rfl <;> cases hentryLevel : entry.level <;> simp_all

namespace Operation

variable {α β : Type} {first : Operation α} {second : α → Operation β}

/-! ### Operations that write nothing, and such as are not refused -/

/-- The operation writes nothing. -/
def Mute (op : Operation α) : Prop := ∀ c, (op c).log = []

/-- The operation writes routine entries only, and is not refused. -/
structure Sturdy (op : Operation α) : Prop where
  routine : ∀ c, ∀ entry ∈ (op c).log, entry.isRoutine = true
  lasting : ∀ c e, (op c).answer = .error e → e.isRefusal = false

/-- The operation writes routine entries only, and none if it is refused. -/
structure Orderly (op : Operation α) : Prop where
  routine : ∀ c, ∀ entry ∈ (op c).log, entry.isRoutine = true
  silent : ∀ c e, (op c).answer = .error e → e.isRefusal = true → (op c).log = []

theorem bind_cases (first : Operation α) (second : α → Operation β) (c : Catalog) :
    (∃ a, (first c).answer = .ok a ∧
        ((first >>= second) c).answer = (second a (first c).catalog).answer ∧
        ((first >>= second) c).log = (first c).log ++ (second a (first c).catalog).log) ∨
      ∃ e, (first c).answer = .error e ∧ ((first >>= second) c).answer = .error e ∧
        ((first >>= second) c).log = (first c).log := by
  cases hfirst : (first c).answer with
  | ok a => exact .inl ⟨a, rfl, by rw [bind_apply, andThen_of_ok hfirst],
      by rw [bind_apply, andThen_of_ok hfirst]⟩
  | error e => exact .inr ⟨e, rfl, by rw [bind_apply, andThen_of_error hfirst],
      by rw [bind_apply, andThen_of_error hfirst]⟩

theorem Mute.bind (h : first.Mute) (h' : ∀ a, (second a).Mute) : (first >>= second).Mute := by
  intro c
  rcases bind_cases first second c with ⟨a, -, -, hlog⟩ | ⟨e, -, -, hlog⟩
  · rw [hlog, h c, h' a]
    rfl
  · rw [hlog, h c]

theorem mute_failIf (condition : Catalog → Bool) (e : Error) : (failIf condition e).Mute := by
  intro c
  cases h : condition c with
  | true => rw [failIf_of_true h]
  | false => rw [failIf_of_false h]

theorem mute_ofExcept {ε : Type} (cause : ε → Error) (result : Except ε α) :
    (ofExcept cause result).Mute := by
  cases result <;> exact fun _ => rfl

theorem Mute.routine {op : Operation α} (h : op.Mute) (c : Catalog) :
    ∀ entry ∈ (op c).log, entry.isRoutine = true := by
  rw [h c]
  exact List.forall_mem_nil _

theorem Mute.orderly {op : Operation α} (h : op.Mute) : op.Orderly :=
  ⟨h.routine, fun c _ _ _ => h c⟩

theorem sturdy_pure (a : α) : (pure a : Operation α).Sturdy :=
  ⟨Mute.routine fun _ => rfl, fun _ _ => nofun⟩

theorem sturdy_change (f : Catalog → Catalog) : (change f).Sturdy :=
  ⟨Mute.routine fun _ => rfl, fun _ _ => nofun⟩

theorem sturdy_write {entry : LogEntry} (h : entry.isRoutine = true) : (write entry).Sturdy where
  routine _ _ hentry := List.mem_singleton.mp hentry ▸ h
  lasting _ _ := nofun

theorem Sturdy.bind (h : first.Sturdy) (h' : ∀ a, (second a).Sturdy) :
    (first >>= second).Sturdy where
  routine c entry hentry := by
    rcases bind_cases first second c with ⟨a, -, -, hlog⟩ | ⟨e, -, -, hlog⟩ <;>
      rw [hlog] at hentry
    · rcases List.mem_append.mp hentry with hentry | hentry
      · exact h.routine c entry hentry
      · exact (h' a).routine _ entry hentry
    · exact h.routine c entry hentry
  lasting c e herror := by
    rcases bind_cases first second c with ⟨a, -, hanswer, -⟩ | ⟨e', hfirst, hanswer, -⟩ <;>
      rw [hanswer] at herror
    · exact (h' a).lasting _ e herror
    · cases herror
      exact h.lasting c e hfirst

theorem Sturdy.orderly {op : Operation α} (h : op.Sturdy) : op.Orderly where
  routine := h.routine
  silent c e herror hrefusal := by
    rw [h.lasting c e herror] at hrefusal
    cases hrefusal

/-- An operation may be refused as long as nothing was written. -/
theorem Mute.bind_orderly (h : first.Mute) (h' : ∀ a, (second a).Orderly) :
    (first >>= second).Orderly where
  routine c entry hentry := by
    rcases bind_cases first second c with ⟨a, -, -, hlog⟩ | ⟨e, -, -, hlog⟩ <;>
      rw [hlog, h c] at hentry
    · exact (h' a).routine _ entry hentry
    · cases hentry
  silent c e herror hrefusal := by
    rcases bind_cases first second c with ⟨a, -, hanswer, hlog⟩ | ⟨e', -, -, hlog⟩ <;>
      rw [hlog, h c]
    · rw [hanswer] at herror
      exact (h' a).silent _ e herror hrefusal

end Operation

open Operation (Mute sturdy_pure sturdy_change sturdy_write mute_failIf mute_ofExcept)

/-! ### Operations on maps and stores -/

namespace MapHandle

variable (handle : MapHandle) (key : Key)

theorem sturdy_entries : handle.entries.Sturdy := by
  refine ⟨Mute.routine fun c => ?_, fun c e herror => ?_⟩
  · cases hclosed : c.isClosed handle with
    | true => rw [entries_of_closed hclosed]
    | false => rw [entries_of_open hclosed]
  · cases hclosed : c.isClosed handle with
    | true =>
      rw [entries_of_closed hclosed] at herror
      cases herror
      rfl
    | false =>
      rw [entries_of_open hclosed] at herror
      cases herror

theorem sturdy_add : (handle.add key).Sturdy :=
  handle.sturdy_entries.bind fun _ => sturdy_change _

theorem sturdy_clear : handle.clear.Sturdy := handle.sturdy_entries.bind fun _ => sturdy_change _

theorem sturdy_keys : handle.keys.Sturdy := handle.sturdy_entries.bind fun _ => sturdy_pure _

theorem sturdy_keysIntersecting : (handle.keysIntersecting key).Sturdy :=
  handle.sturdy_entries.bind fun _ => sturdy_pure _

end MapHandle

theorem StoreId.sturdy_removeMap (store : StoreId) (handle : MapHandle) :
    (store.removeMap handle).Sturdy := by
  have hcases : ∀ c, (∃ c' log, store.removeMap handle c = ⟨.ok (), c', log⟩ ∧
      ∀ entry ∈ log, entry.isRoutine = true) ∨
        store.removeMap handle c = ⟨.error (.closed .store), c, []⟩ := by
    intro c
    cases hclosed : c.isStoreClosed store with
    | true => exact .inr (removeMap_of_closed hclosed handle)
    | false =>
      obtain ⟨s, hs, hopen⟩ := isStoreClosed_eq_false hclosed
      cases hfind : c.find? s.storage handle.name with
      | some map =>
        exact .inl ⟨_, _, removeMap_of_some hs hopen hfind, List.forall_mem_singleton.mpr rfl⟩
      | none => exact .inl ⟨_, _, removeMap_of_none hs hopen hfind, nofun⟩
  refine ⟨fun c entry hentry => ?_, fun c e herror => ?_⟩
  · rcases hcases c with ⟨c', log, heffect, hlog⟩ | heffect <;> rw [heffect] at hentry
    · exact hlog entry hentry
    · cases hentry
  · rcases hcases c with ⟨c', log, heffect, -⟩ | heffect <;> rw [heffect] at herror <;> cases herror
    rfl

/-! ### Operations on indexes -/

namespace Index

variable (ix : Index) (session : Session) (row : Row)

theorem mute_requireOpen : ix.requireOpen.Mute := mute_failIf _ _

theorem mute_openKey : (ix.openKey row).Mute :=
  ix.mute_requireOpen.bind fun _ => mute_ofExcept _ _

theorem orderly_add : (ix.add session row).Orderly :=
  (ix.mute_openKey row).bind_orderly fun key =>
    ((sturdy_write rfl).bind fun _ => ix.map.sturdy_add key).orderly

theorem orderly_find : (ix.find session).Orderly :=
  ix.mute_requireOpen.bind_orderly fun _ =>
    (ix.map.sturdy_keys.bind fun _ => sturdy_pure _).orderly

theorem orderly_search : ∀ row : Option Row, (ix.search session row).Orderly
  | none => ix.orderly_find session
  | some row => (ix.mute_openKey row).bind_orderly fun query =>
      ((sturdy_write rfl).bind fun _ =>
        (ix.map.sturdy_keysIntersecting query).bind fun _ => sturdy_pure _).orderly

theorem orderly_truncate : (ix.truncate session).Orderly :=
  ix.mute_requireOpen.bind_orderly fun _ =>
    ((sturdy_write rfl).bind fun _ => ix.map.sturdy_clear).orderly

theorem orderly_drop : (ix.drop session).Orderly := by
  have hlook : Operation.look.Mute := fun _ => rfl
  refine hlook.bind_orderly fun c => ?_
  by_cases hclosed : c.isClosed ix.map = true
  · rw [if_pos hclosed]
    exact (sturdy_pure ()).orderly
  · rw [if_neg hclosed]
    exact ((sturdy_write rfl).bind fun _ => ix.store.sturdy_removeMap ix.map).orderly

theorem orderly_close : (ix.close session).Orderly := by
  by_cases hclosed : ix.closed = true
  · rw [close, if_pos hclosed]
    exact (sturdy_pure ix).orderly
  · rw [close, if_neg hclosed]
    exact ((sturdy_write rfl).bind fun _ => (sturdy_change _).bind fun _ => sturdy_pure _).orderly

variable {ix session row} {c : Catalog} {e : Error}

/-- What stands in the way of a key is that the index is closed or that the row does not decode. -/
theorem isRefusal_of_openKey (h : (ix.openKey row c).answer = .error e) : e.isRefusal = true := by
  cases hclosed : ix.closed with
  | true =>
    rw [openKey, Operation.bind_of_error (requireOpen_of_closed hclosed)] at h
    cases h
    rfl
  | false =>
    rw [openKey, Operation.bind_of_ok (requireOpen_of_open hclosed)] at h
    cases hkey : ix.key row with
    | ok key =>
      rw [hkey] at h
      cases h
    | error fault =>
      rw [hkey] at h
      cases h
      rfl

/-- **Removing a row** reports it as missing if that is what it fails with.  Otherwise it writes no
error, and nothing if it is refused. -/
theorem remove_reports (ix : Index) (session : Session) (row : Row) (c : Catalog) :
    ((ix.remove session row c).answer = .error (.integrity (.missingRow row.id ix.name)) ∧
        (ix.remove session row c).log =
          [.remove ix.name session.id row.id, .missingRow ix.name ix.table row.id]) ∨
      ((∀ fault, (ix.remove session row c).answer ≠ .error (.integrity fault)) ∧
        (∀ entry ∈ (ix.remove session row c).log, entry.isRoutine = true) ∧
        ∀ e, (ix.remove session row c).answer = .error e → e.isRefusal = true →
          (ix.remove session row c).log = []) := by
  rcases openKey_cases ix row c with ⟨key, hindex, hkey, hopenKey⟩ | ⟨e, hopenKey⟩
  · cases hmap : c.isClosed ix.map with
    | true =>
      right
      rw [remove, Operation.bind_of_ok hopenKey, Operation.bind_of_ok (Operation.write_eq _),
        Operation.bind_of_error (MapHandle.remove_of_closed hmap key)]
      refine ⟨fun fault hfault => ?_, List.forall_mem_singleton.mpr rfl, fun e he hrefusal => ?_⟩
      · cases hfault
      · cases he
        cases hrefusal
    | false =>
      have hopen : ix.isClosed c = false := isClosed_eq_false.mpr ⟨hindex, hmap⟩
      cases herase : (c.entries ix.map.map).erase? key with
      | some left =>
        rw [remove_of_some hopen hkey herase]
        refine .inr ⟨fun fault hfault => ?_, List.forall_mem_singleton.mpr rfl, fun e he => ?_⟩
        · cases hfault
        · cases he
      | none =>
        rw [remove_of_none hopen hkey herase, row_of_key hkey]
        exact .inl ⟨rfl, rfl⟩
  · have hrefusal : e.isRefusal = true := isRefusal_of_openKey (c := c) (by rw [hopenKey])
    rw [remove, Operation.bind_of_error hopenKey]
    refine .inr ⟨fun fault hfault => ?_, List.forall_mem_nil _, fun _ _ _ => rfl⟩
    cases hfault
    cases hrefusal

end Index

/-- **Opening an index** writes one entry about the index itself, with the flag that the index has,
and a notice if the index is opened again and has to be rebuilt; if it fails, it writes nothing. -/
theorem Session.openIndex_reports (session : Session) (d : Declaration) (table : String)
    (c : Catalog) :
    (∃ ix, (session.openIndex d table c).answer = .ok ix ∧
        (session.openIndex d table c).log =
          [.openedMap d.mapName] ++
            ((if ix.needsRebuild && !d.create then [.emptyOnReopen d.name d.mapName] else []) ++
              [.openedIndex d.name d.id table d.mapName d.persistent d.create ix.needsRebuild])) ∨
      ∃ e, (session.openIndex d table c).answer = .error e ∧
        (session.openIndex d table c).log = [] := by
  rcases session.openIndex_effect d table c with
    ⟨column, storage, map, c', ix, -, -, -, -, heffect⟩ | ⟨e, heffect⟩
  · rw [heffect]
    exact .inl ⟨ix, rfl, rfl⟩
  · rw [heffect]
    exact .inr ⟨e, rfl, rfl⟩

end GeometryIndex
