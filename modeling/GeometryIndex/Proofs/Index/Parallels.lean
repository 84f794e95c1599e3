import GeometryIndex.Proofs.Index.Effects
import GeometryIndex.Proofs.Storage.Mirrors

/-!
# Indexes — operations in catalogs that mirror a name

An operation that is done in two catalogs, one of which mirrors a name of the other, has the same
effects in both, up to how maps and stores are numbered.

* `Operation.Alike.bind`: this holds of an operation if it holds of those it consists of;
* `Index.add_alike` and its like: hence of every operation on an index;
* `Session.openIndex_alike`: and of opening one, which adds to the embedding.
-/

namespace GeometryIndex

open Catalog (Mirrors)

/-! ### Effects and operations -/

section

variable {α β γ δ : Type} {f : Embedding} {storage : Storage} {name : String}
  {R : α → β → Prop} {T : γ → δ → Prop} {part whole : Catalog}

/-- Answers that correspond, or the same error. -/
inductive Answers (R : α → β → Prop) : Except Error α → Except Error β → Prop
  | ok {a : α} {b : β} (h : R a b) : Answers R (.ok a) (.ok b)
  | error (e : Error) : Answers R (.error e) (.error e)

theorem Answers.of_ok {b : β} {answer : Except Error α} (h : Answers R answer (.ok b)) :
    ∃ a, answer = .ok a ∧ R a b := by
  cases h with
  | ok h => exact ⟨_, rfl, h⟩

theorem Answers.toOption_eq {answer answer' : Except Error α} (h : Answers Eq answer answer') :
    answer.toOption = answer'.toOption := by
  cases h with
  | ok h => exact congrArg some h
  | error e => rfl

/-- Effects that cannot be told apart by what was opened under the name. -/
structure Effect.Alike (f : Embedding) (storage : Storage) (name : String) (R : α → β → Prop)
    (e : Effect α) (e' : Effect β) : Prop where
  answer : Answers R e.answer e'.answer
  catalog : Mirrors f storage name e.catalog e'.catalog
  log : e.log = e'.log

/-- Operations with such effects wherever they are done. -/
def Operation.Alike (f : Embedding) (storage : Storage) (name : String) (R : α → β → Prop)
    (op : Operation α) (op' : Operation β) : Prop :=
  ∀ part whole, Mirrors f storage name part whole → (op part).Alike f storage name R (op' whole)

namespace Operation

/-- Operations that begin alike, whatever the catalogs are alike in after that. -/
theorem alike_of_ok {g : Embedding} {first : Operation α} {first' : Operation β}
    {second : α → Operation γ} {second' : β → Operation δ} {a : α} {b : β} {c c' : Catalog}
    {log : List LogEntry} (hfirst : first part = ⟨.ok a, c, log⟩)
    (hfirst' : first' whole = ⟨.ok b, c', log⟩)
    (h : (second a c).Alike g storage name T (second' b c')) :
    ((first >>= second) part).Alike g storage name T ((first' >>= second') whole) := by
  rw [bind_of_ok hfirst, bind_of_ok hfirst']
  obtain ⟨hanswer, hcatalog, hlog⟩ := h
  exact ⟨hanswer, hcatalog, congrArg (log ++ ·) hlog⟩

/-- One operation after another one. -/
theorem alike_bind {first : Operation α} {first' : Operation β} {second : α → Operation γ}
    {second' : β → Operation δ} (h₁ : (first part).Alike f storage name R (first' whole))
    (h₂ : ∀ a b, R a b → (second a).Alike f storage name T (second' b)) :
    ((first >>= second) part).Alike f storage name T ((first' >>= second') whole) := by
  obtain ⟨hanswer, hcatalog, hlog⟩ := h₁
  rcases hfirst : first part with ⟨answer, c, log⟩
  rcases hfirst' : first' whole with ⟨answer', c', log'⟩
  rw [hfirst, hfirst'] at hanswer hcatalog hlog
  obtain rfl : log = log' := hlog
  cases hanswer with
  | ok h => exact alike_of_ok hfirst hfirst' (h₂ _ _ h c c' hcatalog)
  | error e =>
    rw [bind_of_error hfirst, bind_of_error hfirst']
    exact ⟨.error e, hcatalog, rfl⟩

namespace Alike

theorem bind {first : Operation α} {first' : Operation β} {second : α → Operation γ}
    {second' : β → Operation δ} (h₁ : first.Alike f storage name R first')
    (h₂ : ∀ a b, R a b → (second a).Alike f storage name T (second' b)) :
    (first >>= second).Alike f storage name T (first' >>= second') :=
  fun part whole h => alike_bind (h₁ part whole h) h₂

theorem pure {a : α} {b : β} (h : R a b) :
    Operation.Alike f storage name R (Pure.pure a) (Pure.pure b) :=
  fun _ _ hmirrors => ⟨.ok h, hmirrors, rfl⟩

theorem fail (e : Error) : (Operation.fail e).Alike f storage name R (Operation.fail e) :=
  fun _ _ hmirrors => ⟨.error e, hmirrors, rfl⟩

theorem write (entry : LogEntry) :
    (Operation.write entry).Alike f storage name Eq (Operation.write entry) :=
  fun _ _ hmirrors => ⟨.ok rfl, hmirrors, rfl⟩

theorem writeIf (condition : Bool) (entry : LogEntry) :
    (Operation.writeIf condition entry).Alike f storage name Eq
      (Operation.writeIf condition entry) := by
  cases condition with
  | true => exact write entry
  | false => exact pure rfl

theorem ofExcept {ε : Type} (cause : ε → Error) (result : Except ε α) :
    (Operation.ofExcept cause result).Alike f storage name Eq
      (Operation.ofExcept cause result) := by
  cases result with
  | ok a => exact pure rfl
  | error e => exact fail _

theorem look : Operation.look.Alike f storage name (Mirrors f storage name) Operation.look :=
  fun _ _ hmirrors => ⟨.ok hmirrors, hmirrors, rfl⟩

theorem change {g g' : Catalog → Catalog}
    (h : ∀ part whole, Mirrors f storage name part whole →
      Mirrors f storage name (g part) (g' whole)) :
    (Operation.change g).Alike f storage name Eq (Operation.change g') :=
  fun part whole hmirrors => ⟨.ok rfl, h part whole hmirrors, rfl⟩

theorem failIf {condition condition' : Catalog → Bool} (e : Error)
    (h : ∀ part whole, Mirrors f storage name part whole → condition part = condition' whole) :
    (Operation.failIf condition e).Alike f storage name Eq (Operation.failIf condition' e) := by
  intro part whole hmirrors
  have hsame := h part whole hmirrors
  cases hcondition : condition part with
  | true =>
    rw [failIf_of_true hcondition, failIf_of_true (hsame ▸ hcondition)]
    exact ⟨.error e, hmirrors, rfl⟩
  | false =>
    rw [failIf_of_false hcondition, failIf_of_false (hsame ▸ hcondition)]
    exact ⟨.ok rfl, hmirrors, rfl⟩

end Alike

end Operation

end

/-! ### Maps and stores -/

section

open Operation

variable {f : Embedding} {storage : Storage} {name : String} {s s' : StoreId}
  {handle handle' : MapHandle}

/-- Handles that correspond. -/
structure Embedding.Handle (f : Embedding) (handle handle' : MapHandle) : Prop where
  name : handle.name = handle'.name
  map : f.Map handle.map handle'.map
  store : f.Store handle.store handle'.store

theorem StoreId.openStorage_alike (hs : f.Store s s') :
    s.openStorage.Alike f storage name (fun here here' => here = storage ∧ here' = storage)
      s'.openStorage := by
  refine .bind (.failIf _ fun _ _ h => h.isStoreClosed_eq hs) fun _ _ _ part whole h => ?_
  obtain ⟨state', hstate', hshared'⟩ := Option.map_eq_some_iff.mp (h.storageOf?_eq hs).2
  have hstate := (h.stores.getElem?_eq hs).trans hstate'
  have hshared := h.shared _ (List.mem_of_getElem? hstate)
  simp only [StoreId.storage, hstate, hstate']
  exact ⟨.ok ⟨hshared, hshared'⟩, h, rfl⟩

/-- Removing the map of the name. -/
theorem StoreId.removeMap_alike (hs : f.Store s s') (hname : handle.name = name)
    (hname' : handle'.name = name) :
    (s.removeMap handle).Alike f storage name Eq (s'.removeMap handle') := by
  refine .bind (openStorage_alike hs) fun _ _ hhere => .bind .look fun c c' hlook => ?_
  obtain ⟨rfl, rfl⟩ := hhere
  subst hname
  rw [hname']
  generalize hfind : c.find? _ handle.name = found
  generalize hfind' : c'.find? _ handle.name = found'
  have hfound := hlook.find?
  rw [hfind, hfind'] at hfound
  cases hfound with
  | none => exact .pure rfl
  | some hm => exact .bind (.change fun _ _ h => h.remove hm) fun _ _ _ => .write _

/-- Opening the map of the name, through stores that are open. -/
theorem StoreId.openMap_alike {part whole : Catalog} (h : Mirrors f storage name part whole)
    (hwell : whole.WellFormed) (hs : f.Store s s')
    (hopen : part.stores[s.number]? = some ⟨storage, false⟩) :
    ∃ g, (g = f ∨ g = f.addMap whole.maps.length) ∧
      (s.openMap name part).Alike g storage name
        (fun handle handle' =>
          ∃ m m', handle = ⟨name, m, s⟩ ∧ handle' = ⟨name, m', s'⟩ ∧ g.Map m m')
        (s'.openMap name whole) := by
  have hopen' : whole.stores[s'.number]? = some ⟨storage, false⟩ :=
    (h.stores.getElem?_eq hs).symm.trans hopen
  generalize hfind : part.find? storage name = found
  generalize hfind' : whole.find? storage name = found'
  have hfound := h.find?
  rw [hfind, hfind'] at hfound
  cases hfound with
  | none =>
    rw [openMap_of_none hopen rfl hfind, openMap_of_none hopen' rfl hfind']
    exact ⟨_, .inr rfl, .ok ⟨_, _, rfl, rfl, h.map_new⟩, h.create hwell, rfl⟩
  | some hm =>
    rw [openMap_of_some hopen rfl hfind, openMap_of_some hopen' rfl hfind']
    exact ⟨f, .inl rfl, .ok ⟨_, _, rfl, rfl, hm⟩, h, rfl⟩

namespace MapHandle

theorem entries_alike (h : f.Handle handle handle') :
    handle.entries.Alike f storage name Eq handle'.entries := by
  obtain ⟨hname, hm, hs⟩ := h
  rw [entries, entries, hname]
  refine .bind (.failIf _ fun _ _ h => h.isClosed_eq hm hs) fun _ _ _ => ?_
  exact .bind .look fun _ _ hlook => .pure (hlook.entries_eq hm)

theorem add_alike (h : f.Handle handle handle') (key : Key) :
    (handle.add key).Alike f storage name Eq (handle'.add key) := by
  refine .bind (entries_alike h) ?_
  rintro entries _ rfl
  exact .change fun _ _ hmirrors => hmirrors.setEntries h.map _

theorem remove_alike (h : f.Handle handle handle') (key : Key) :
    (handle.remove key).Alike f storage name Eq (handle'.remove key) := by
  refine .bind (entries_alike h) ?_
  rintro entries _ rfl
  cases entries.erase? key with
  | none => exact .pure rfl
  | some rest =>
    exact .bind (.change fun _ _ hmirrors => hmirrors.setEntries h.map _) fun _ _ _ => .pure rfl

theorem clear_alike (h : f.Handle handle handle') :
    handle.clear.Alike f storage name Eq handle'.clear :=
  .bind (entries_alike h) fun _ _ _ => .change fun _ _ hmirrors => hmirrors.setEntries h.map _

theorem keys_alike (h : f.Handle handle handle') :
    handle.keys.Alike f storage name Eq handle'.keys :=
  .bind (entries_alike h) fun _ _ heq => .pure (congrArg _ heq)

theorem keysIntersecting_alike (h : f.Handle handle handle') (query : Key) :
    (handle.keysIntersecting query).Alike f storage name Eq (handle'.keysIntersecting query) :=
  .bind (entries_alike h) fun _ _ heq => .pure (congrArg _ heq)

end MapHandle

end

/-! ### Indexes -/

/-- The index over another store and another map. -/
def Index.moved (ix : Index) (store : StoreId) (map : MapId) : Index :=
  { ix with store, map := ⟨ix.map.name, map, store⟩ }

/-- An index over the map of the name corresponds to one with the given store and map. -/
structure Embedding.Index (f : Embedding) (name : String) (ix : Index) (store : StoreId)
    (map : MapId) : Prop where
  handle : f.Handle ix.map (ix.moved store map).map
  name : ix.map.name = name
  store : f.Store ix.store store

namespace Index

open Operation

variable {f : Embedding} {storage : Storage} {name : String} {ix : Index} {store : StoreId}
  {map : MapId}

theorem openKey_alike (ix : Index) (store : StoreId) (map : MapId) (row : Row) :
    (ix.openKey row).Alike f storage name Eq ((ix.moved store map).openKey row) :=
  .bind (.failIf _ fun _ _ _ => rfl) fun _ _ _ => .ofExcept _ _

theorem add_alike (h : f.Index name ix store map) (session : Session) (row : Row) :
    (ix.add session row).Alike f storage name Eq ((ix.moved store map).add session row) := by
  refine .bind (openKey_alike ix store map row) ?_
  rintro key _ rfl
  exact .bind (.write _) fun _ _ _ => MapHandle.add_alike h.handle key

theorem remove_alike (h : f.Index name ix store map) (session : Session) (row : Row) :
    (ix.remove session row).Alike f storage name Eq ((ix.moved store map).remove session row) := by
  refine .bind (openKey_alike ix store map row) ?_
  rintro key _ rfl
  refine .bind (.write _) fun _ _ _ => .bind (MapHandle.remove_alike h.handle key) ?_
  rintro removed _ rfl
  cases removed with
  | true => exact .pure rfl
  | false => exact .bind (.write _) fun _ _ _ => .fail _

theorem find_alike (h : f.Index name ix store map) (session : Session) :
    (ix.find session).Alike f storage name Eq ((ix.moved store map).find session) := by
  refine .bind (.failIf _ fun _ _ _ => rfl) fun _ _ _ => .bind (MapHandle.keys_alike h.handle) ?_
  rintro keys _ rfl
  exact .pure rfl

theorem search_alike (h : f.Index name ix store map) (session : Session) (row : Option Row) :
    (ix.search session row).Alike f storage name Eq ((ix.moved store map).search session row) := by
  cases row with
  | none => exact find_alike h session
  | some row =>
    refine .bind (openKey_alike ix store map row) ?_
    rintro query _ rfl
    refine .bind (.write _) fun _ _ _ => .bind (MapHandle.keysIntersecting_alike h.handle query) ?_
    rintro keys _ rfl
    exact .pure rfl

theorem truncate_alike (h : f.Index name ix store map) (session : Session) :
    (ix.truncate session).Alike f storage name Eq ((ix.moved store map).truncate session) :=
  .bind (.failIf _ fun _ _ _ => rfl) fun _ _ _ => .bind (.write _) fun _ _ _ =>
    MapHandle.clear_alike h.handle

theorem drop_alike (h : f.Index name ix store map) (session : Session) :
    (ix.drop session).Alike f storage name Eq ((ix.moved store map).drop session) := by
  refine .bind .look fun c c' hlook => ?_
  rw [hlook.isClosed_eq h.handle.map h.handle.store]
  cases c'.isClosed (ix.moved store map).map with
  | true => exact .pure rfl
  | false =>
    exact .bind (.write _) fun _ _ _ => StoreId.removeMap_alike h.store h.name h.name

/-- Indexes of an id that correspond. -/
def Corresponds (f : Embedding) (name : String) (id : Int32) (ix ix' : Index) : Prop :=
  ix.id = id ∧ ∃ store map, ix' = ix.moved store map ∧ f.Index name ix store map

theorem Corresponds.extends {g : Embedding} {c : Catalog} {id : Int32} {ix' : Index}
    (h : Corresponds f name id ix ix') (hg : f.Extends g c) : Corresponds g name id ix ix' := by
  obtain ⟨hid, store, map, heq, hhandle, hname, hstore⟩ := h
  exact ⟨hid, store, map, heq, ⟨hhandle.name, hg.map hhandle.map, hg.store hhandle.store⟩, hname,
    hg.store hstore⟩

theorem close_alike (h : f.Index name ix store map) (session : Session) :
    (ix.close session).Alike f storage name (Corresponds f name ix.id)
      ((ix.moved store map).close session) := by
  rw [close, close]
  show Operation.Alike f storage name _ _ (if ix.closed then _ else _)
  by_cases hclosed : ix.closed = true
  · rw [if_pos hclosed, if_pos hclosed]
    exact .pure ⟨rfl, store, map, rfl, h⟩
  · rw [if_neg hclosed, if_neg hclosed]
    refine .bind (.write _) fun _ _ _ => .bind (.change fun _ _ hm => hm.closeStore h.store) ?_
    exact fun _ _ _ => .pure ⟨rfl, store, map, rfl, h.handle, h.name, h.store⟩

theorem rowCount_eq_of_mirrors {part whole : Catalog} (h : f.Index name ix store map)
    (hmirrors : Mirrors f storage name part whole) :
    ix.rowCount part = (ix.moved store map).rowCount whole := by
  rw [rowCount, rowCount, Catalog.size, Catalog.size, hmirrors.entries_eq h.handle.map]

theorem isClosed_eq_of_mirrors {part whole : Catalog} (h : f.Index name ix store map)
    (hmirrors : Mirrors f storage name part whole) :
    ix.isClosed part = (ix.moved store map).isClosed whole := by
  rw [isClosed, isClosed, hmirrors.isClosed_eq h.handle.map h.handle.store]
  rfl

theorem markRebuilt_alike (h : f.Index name ix store map) :
    ix.markRebuilt.Alike f storage name (Corresponds f name ix.id)
      (ix.moved store map).markRebuilt := by
  refine .bind .look fun c c' hlook => ?_
  rw [rowCount_eq_of_mirrors h hlook]
  exact .bind (.writeIf _ _) fun _ _ _ => .pure ⟨rfl, store, map, rfl, h.handle, h.name, h.store⟩

end Index

/-! ### Opening an index -/

/-- **Opening an index** over the map of the name, in the storage of the session. -/
theorem Session.openIndex_alike {f : Embedding} {S : String} {part whole : Catalog}
    {session : Session} {d : Declaration}
    (h : Mirrors f (.named S) d.mapName part whole) (hwell : whole.WellFormed)
    (hpersistent : d.persistent = true) (hsession : session.storage = some S) (table : String) :
    ∃ g, f.Extends g whole ∧ (session.openIndex d table part).Alike g (.named S) d.mapName
      (Index.Corresponds g d.mapName d.id) (session.openIndex d table whole) := by
  have hstorage (c : Catalog) : session.storageFor d.persistent c = some (.named S) := by
    rw [hpersistent, storageFor, hsession]
    rfl
  cases hcolumn : d.column session.starting with
  | error fault =>
    refine ⟨f, .refl f whole, ?_⟩
    rw [openIndex, hcolumn, Operation.bind_of_error (Operation.ofExcept_error _ _),
      Operation.bind_of_error (Operation.ofExcept_error _ _)]
    exact ⟨.error _, h, rfl⟩
  | ok column =>
    have hnew : (part.addStore (.named S)).stores[part.stores.length]? =
        some ⟨.named S, false⟩ := by
      simp [Catalog.addStore]
    have hknown : ∀ number, Storage.named S = .ephemeral number →
        number < whole.stores.length + 1 := by
      intro number hnumber
      cases hnumber
    obtain ⟨g, hg, hmap⟩ :=
      StoreId.openMap_alike h.addStore (hwell.addStore hknown) h.store_new hnew
    have hstore : g.Store ⟨part.stores.length⟩ ⟨whole.stores.length⟩ := by
      rcases hg with rfl | rfl <;> exact h.store_new
    refine ⟨g, ?_, ?_⟩
    · rcases hg with rfl | rfl
      · exact (Embedding.Extends.refl f whole).addStore
      · exact (Embedding.Extends.refl f whole).addStore.addMap
    · rw [openIndex, hcolumn]
      refine Operation.alike_of_ok (Operation.ofExcept_ok _ _) (Operation.ofExcept_ok _ _) <|
        Operation.alike_of_ok (openStore_of_some (hstorage _)) (openStore_of_some (hstorage _)) <|
        Operation.alike_bind hmap ?_
      rintro _ _ ⟨m, m', rfl, rfl, hm⟩
      refine .bind .look fun c c' hlook => ?_
      have hsize : c.size ⟨d.mapName, m, ⟨part.stores.length⟩⟩ =
          c'.size ⟨d.mapName, m', ⟨whole.stores.length⟩⟩ := by
        rw [Catalog.size, Catalog.size, hlook.entries_eq hm]
      rw [hsize]
      exact .bind (.writeIf _ _) fun _ _ _ => .bind (.write _) fun _ _ _ =>
        .pure ⟨rfl, _, m', rfl, ⟨rfl, hm, hstore⟩, rfl, hstore⟩

end GeometryIndex
