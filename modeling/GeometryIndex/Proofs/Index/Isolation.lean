import GeometryIndex.Proofs.Index.Parallels
import GeometryIndex.Proofs.Index.Ties

/-!
# Indexes — databases that mirror the indexes of an id

`Database.Mirrors` compares a database with one that has nothing but the persistent indexes of one
id over one storage.  They share a map with each other and with no other index.

* `Database.Mirrors.perform_foreign`, `Database.Mirrors.open_foreign`: what is done by way of other
  indexes of the larger database is not noticed in the smaller one;
* `Database.Mirrors.perform_own`, `Database.Mirrors.open_own`: a request to an index of theirs that
  is made to both looks the same in both, and leaves them alike.
-/

namespace GeometryIndex

namespace Index

/-- Whether an index is the persistent one of an id over a storage. -/
def isOf (S : String) (id : Int32) (ix : Index) (c : Catalog) : Bool :=
  decide (ix.id = id) && decide (c.storageOf? ix.store = some (.named S))

variable {S : String} {id : Int32} {ix ix' : Index} {storage : Storage} {c c' : Catalog}

theorem isOf_iff :
    ix.isOf S id c = true ↔ ix.id = id ∧ c.storageOf? ix.store = some (.named S) := by
  simp [isOf]

theorem isOf_congr (hid : ix'.id = ix.id) (hlink : ix'.link = ix.link)
    (hstorage : c'.storageOf? ix.store = c.storageOf? ix.store) :
    ix'.isOf S id c' = ix.isOf S id c := by
  rw [isOf, isOf, hid, (Prod.mk.inj hlink).1, hstorage]

/-- The name of an index, in the storage that it is tied to, is that of the persistent ones of an id
only if it is one. -/
theorem Tied.name_ne (h : ix.Tied storage c) (hother : ix.isOf S id c = false) :
    (storage, ix.map.name) ≠ (.named S, mapNameOf id) := by
  intro hkey
  obtain ⟨rfl, hname⟩ := Prod.mk.inj hkey
  have hid : ix.id = id := mapNameOf_injective ((h.named S rfl).symm.trans hname)
  rw [isOf_iff.mpr ⟨hid, h.opened⟩] at hother
  cases hother

end Index

/-- A reply without the rows of a table and the numbers of stores and maps. -/
def Reply.seen : Reply → Reply
  | .rows _ => .rows []
  | .info ix count disk => .info (ix.moved ⟨0⟩ ⟨0⟩) count disk
  | reply => reply

namespace Database

/-- What the index of a name shows. -/
def state? (db : Database) (name : String) : Option (UInt64 × Bool × Bool) :=
  (db.index? name).map fun ix => (ix.rowCount db.catalog, ix.isClosed db.catalog, ix.needsRebuild)

/-! ### Databases that mirror -/

/-- `part` has seen nothing but what concerns the persistent indexes of an id over a storage; they
are alike in both, and the other indexes of `whole` have nothing in common with them. -/
structure Mirrors (S : String) (id : Int32) (f : Embedding) (part whole : Database) : Prop where
  catalog : Catalog.Mirrors f (.named S) (Index.mapNameOf id) part.catalog whole.catalog
  own : ∀ name ix', whole.index? name = some ix' → ix'.isOf S id whole.catalog = true →
    ∃ ix, part.index? name = some ix ∧ Index.Corresponds f (Index.mapNameOf id) id ix ix'
  foreign : ∀ name ix', whole.index? name = some ix' → ix'.isOf S id whole.catalog = false →
    ix'.store.number ∉ f.stores ∧ ix'.map.map.number ∉ f.maps
  unbound : ∀ name, whole.index? name = none → part.index? name = none

variable {S : String} {id : Int32} {f g : Embedding} {part whole : Database} {name : String}
  {ix ix' : Index} {storage : Storage} {c c' : Catalog}

theorem mirrors_empty (S : String) (id : Int32) : Mirrors S id .empty empty empty where
  catalog := .empty _ _
  own _ _ h := by cases h
  foreign _ _ h := by cases h
  unbound _ _ := rfl

namespace Mirrors

/-! ### Requests that are left out -/

/-- A change of what a foreign index touches. -/
theorem catalog_touched (h : Mirrors S id f part whole) (hix : whole.index? name = some ix')
    (htied : ix'.Tied storage whole.catalog) (hother : ix'.isOf S id whole.catalog = false)
    (htouches : ix'.Touches storage whole.catalog c') :
    Catalog.Mirrors f (.named S) (Index.mapNameOf id) part.catalog c' := by
  obtain ⟨hstore, hmap⟩ := h.foreign name ix' hix hother
  have hne := htied.name_ne hother
  cases htouches with
  | refl => exact h.catalog
  | setEntries e => exact h.catalog.setEntries_whole hmap e
  | closeStore => exact h.catalog.closeStore_whole hstore
  | remove hfind => exact h.catalog.remove_whole hne (h.catalog.apart _ _ _ hne hfind)

/-- Binding a name to a foreign index, whether it is new or has changed. -/
theorem bind_foreign {whole' : Database} (h : Mirrors S id f part whole)
    (hcatalog : Catalog.Mirrors f (.named S) (Index.mapNameOf id) part.catalog whole'.catalog)
    (hindexes : ∀ sought, whole'.index? sought =
      if sought = name then some ix' else whole.index? sought)
    (hsame : ∀ sought other, whole.index? sought = some other →
      other.isOf S id whole'.catalog = other.isOf S id whole.catalog)
    (hother : ix'.isOf S id whole'.catalog = false)
    (hapart : ix'.store.number ∉ f.stores ∧ ix'.map.map.number ∉ f.maps) :
    Mirrors S id f part whole' := by
  refine ⟨hcatalog, ?_, ?_, ?_⟩
  · intro sought ix₁ hix₁ hown
    rw [hindexes] at hix₁
    split at hix₁
    · obtain rfl := Option.some.inj hix₁
      rw [hother] at hown
      cases hown
    · exact h.own sought ix₁ hix₁ ((hsame sought ix₁ hix₁).symm.trans hown)
  · intro sought ix₁ hix₁ hforeign
    rw [hindexes] at hix₁
    split at hix₁
    · obtain rfl := Option.some.inj hix₁
      exact hapart
    · exact h.foreign sought ix₁ hix₁ ((hsame sought ix₁ hix₁).symm.trans hforeign)
  · intro sought hnone
    rw [hindexes] at hnone
    split at hnone
    · cases hnone
    · exact h.unbound sought hnone

/-- **A request to a foreign index** is not noticed. -/
theorem perform_foreign (h : Mirrors S id f part whole) (hix : whole.index? name = some ix')
    (htied : ix'.Tied storage whole.catalog) (hother : ix'.isOf S id whole.catalog = false)
    (request : IndexRequest) :
    Mirrors S id f part (whole.performOn name ix' request).database := by
  have htouches := touches_performOn name htied.opened request
  obtain ⟨ix'', hid, hlink, hindexes⟩ := index?_performOn hix request
  refine h.bind_foreign (h.catalog_touched hix htied hother htouches) hindexes ?_ ?_ ?_
  · exact fun _ _ _ => Index.isOf_congr rfl rfl (htouches.storageOf?_eq _)
  · exact (Index.isOf_congr hid hlink (htouches.storageOf?_eq _)).trans hother
  · obtain ⟨hstore, hmap⟩ := Prod.mk.inj hlink
    rw [hstore, hmap]
    exact h.foreign name ix' hix hother

/-- The indexes that were there, after another one is opened. -/
theorem isOf_opened {d : Declaration} {opened : Index} (htied : whole.Tied)
    (hopens : Session.Opens d storage whole.catalog opened c') {other : Index}
    (hother : whole.index? name = some other) :
    other.isOf S id c' = other.isOf S id whole.catalog := by
  obtain ⟨storage', htied'⟩ := htied name other hother
  have hopened := htied'.opened
  exact Index.isOf_congr rfl rfl ((hopens.storageOf?_eq hopened).trans hopened.symm)

/-- **Opening a foreign index** is not noticed. -/
theorem open_foreign {d : Declaration} {opened : Index} (h : Mirrors S id f part whole)
    (htied : whole.Tied) (hopens : Session.Opens d storage whole.catalog opened c')
    (htied' : opened.Tied storage c') (hother : opened.isOf S id c' = false) (name : String) :
    Mirrors S id f part (({ whole with catalog := c' } : Database).setIndex name opened) := by
  have hne := htied'.name_ne hother
  rw [hopens.name] at hne
  refine h.bind_foreign ?_ (index?_setIndex _ name opened)
    (fun _ _ hold => isOf_opened htied hopens hold) hother ⟨?_, ?_⟩
  · show Catalog.Mirrors _ _ _ _ c'
    rcases hopens.catalog with ⟨-, rfl⟩ | ⟨-, -, rfl⟩
    · exact h.catalog.addStore_whole storage
    · exact (h.catalog.addStore_whole storage).create_whole hne
  · rw [hopens.store]
    exact fun hmem => Nat.lt_irrefl _ (h.catalog.stores.lt_of_mem hmem)
  · rcases hopens.catalog with ⟨hfind, -⟩ | ⟨-, hmap, -⟩
    · exact h.catalog.apart _ _ _ hne hfind
    · rw [hmap]
      exact fun hmem => Nat.lt_irrefl _ (h.catalog.maps.lt_of_mem hmem)

/-! ### Requests that are made to both -/

/-- Changes of both catalogs that leave the stores of indexes over their storages. -/
theorem withCatalogs (h : Mirrors S id f part whole) (htied : whole.Tied)
    (hextends : f.Extends g whole.catalog)
    (hcatalog : Catalog.Mirrors g (.named S) (Index.mapNameOf id) c c')
    (hsame : ∀ name ix', whole.index? name = some ix' →
      ix'.isOf S id c' = ix'.isOf S id whole.catalog) :
    Mirrors S id g { part with catalog := c } { whole with catalog := c' } := by
  refine ⟨hcatalog, fun name ix' hix hown => ?_, fun name ix' hix hother => ?_, h.unbound⟩
  · obtain ⟨ix, hpart, hcorresponds⟩ := h.own name ix' hix ((hsame name ix' hix).symm.trans hown)
    exact ⟨ix, hpart, hcorresponds.extends hextends⟩
  · obtain ⟨hstore, hmap⟩ := h.foreign name ix' hix ((hsame name ix' hix).symm.trans hother)
    obtain ⟨storage, htied'⟩ := htied name ix' hix
    -- What the embedding gains is newer than any index that was there.
    refine ⟨fun hmem => ?_, fun hmem => ?_⟩
    · rcases hextends.stores_new _ hmem with hold | hnew
      · exact hstore hold
      · exact Nat.not_lt.mpr hnew (Catalog.lt_of_storageOf? htied'.opened)
    · rcases hextends.maps_new _ hmem with hold | hnew
      · exact hmap hold
      · exact Nat.not_lt.mpr hnew htied'.created

/-- Indexes that correspond are persistent ones of the id over the storage. -/
theorem isOf_of_corresponds (h : Mirrors S id f part whole)
    (hcorresponds : Index.Corresponds f (Index.mapNameOf id) id ix ix') :
    ix.isOf S id part.catalog = true ∧ ix'.isOf S id whole.catalog = true := by
  obtain ⟨hid, store, map, rfl, hf⟩ := hcorresponds
  obtain ⟨hpart, hwhole⟩ := h.catalog.storageOf?_eq hf.store
  exact ⟨Index.isOf_iff.mpr ⟨hid, hpart⟩, Index.isOf_iff.mpr ⟨hid, hwhole⟩⟩

theorem setIndex (h : Mirrors S id f part whole)
    (hcorresponds : Index.Corresponds f (Index.mapNameOf id) id ix ix') (name : String) :
    Mirrors S id f (part.setIndex name ix) (whole.setIndex name ix') := by
  have hown := (h.isOf_of_corresponds hcorresponds).2
  refine ⟨h.catalog, ?_, ?_, ?_⟩
  · intro sought ix₁ hix₁ hown₁
    rw [index?_setIndex] at hix₁ ⊢
    split at hix₁
    · next heq =>
      obtain rfl := Option.some.inj hix₁
      rw [if_pos heq]
      exact ⟨ix, rfl, hcorresponds⟩
    · next hne =>
      rw [if_neg hne]
      exact h.own sought ix₁ hix₁ hown₁
  · intro sought ix₁ hix₁ hother
    rw [index?_setIndex] at hix₁
    split at hix₁
    · obtain rfl := Option.some.inj hix₁
      cases hown.symm.trans hother
    · exact h.foreign sought ix₁ hix₁ hother
  · intro sought hnone
    rw [index?_setIndex] at hnone ⊢
    split at hnone
    · cases hnone
    · next hne =>
      rw [if_neg hne]
      exact h.unbound sought hnone

theorem setTable (h : Mirrors S id f part whole) (t t' : Table) :
    Mirrors S id f (part.setTable t) (whole.setTable t') :=
  ⟨h.catalog, h.own, h.foreign, h.unbound⟩

/-- An index that corresponds to one that is shown in the other database shows the same. -/
theorem state?_eq (h : Mirrors S id f part whole) (hix : whole.index? name = some ix')
    (hown : ix'.isOf S id whole.catalog = true) : part.state? name = whole.state? name := by
  obtain ⟨ix, hpart, -, store, map, rfl, hf⟩ := h.own name ix' hix hown
  rw [state?, state?, hpart, hix, Option.map_some, Option.map_some,
    Index.rowCount_eq_of_mirrors hf h.catalog, Index.isClosed_eq_of_mirrors hf h.catalog]
  rfl

end Mirrors

/-- Responses that look the same, and lead to databases that mirror. -/
structure Alike (S : String) (id : Int32) (f : Embedding) (r r' : Response) : Prop where
  reply : r.reply.map Reply.seen = r'.reply.map Reply.seen
  log : r.log = r'.log
  database : Mirrors S id f r.database r'.database

/-- An operation that is done in both, and what is made of its answers. -/
theorem alike_operate {α β : Type} {R : α → β → Prop} {op : Operation α} {op' : Operation β}
    {next : α → Database → Reply × Database} {next' : β → Database → Reply × Database}
    (h : Mirrors S id f part whole) (htied : whole.Tied) (hextends : f.Extends g whole.catalog)
    (hop : (op part.catalog).Alike g (.named S) (Index.mapNameOf id) R (op' whole.catalog))
    (hkeep : ∀ b db, (next' b db).2.catalog = db.catalog)
    (hsame : ∀ name ix', whole.index? name = some ix' →
      ix'.isOf S id (whole.operate op' next').database.catalog = ix'.isOf S id whole.catalog)
    (hnext : ∀ a b db db', R a b → Mirrors S id g db db' →
      (next a db).1.seen = (next' b db').1.seen ∧ Mirrors S id g (next a db).2 (next' b db').2) :
    Alike S id g (part.operate op next) (whole.operate op' next') := by
  obtain ⟨hanswer, hcatalog, hlog⟩ := hop
  rw [catalog_operate hkeep] at hsame
  have hdb := h.withCatalogs htied hextends hcatalog hsame
  generalize hpart : (op part.catalog).answer = answer at hanswer
  generalize hwhole : (op' whole.catalog).answer = answer' at hanswer
  cases hanswer with
  | ok hR =>
    obtain ⟨hreply, hmirrors⟩ := hnext _ _ _ _ hR hdb
    rw [operate_of_ok hpart, operate_of_ok hwhole]
    exact ⟨congrArg Except.ok hreply, hlog, hmirrors⟩
  | error e =>
    rw [operate_of_error hpart, operate_of_error hwhole]
    exact ⟨rfl, hlog, hdb⟩

/-- **A request to an index that corresponds** is answered alike. -/
theorem Mirrors.perform_own (h : Mirrors S id f part whole) (htied : whole.Tied)
    (hcorresponds : Index.Corresponds f (Index.mapNameOf id) id ix ix') (name : String)
    (request : IndexRequest) :
    Alike S id f (part.performOn name ix request) (whole.performOn name ix' request) := by
  have hopened := (Index.isOf_iff.mp (h.isOf_of_corresponds hcorresponds).2).2
  have htouches := touches_performOn name hopened request
  have hsame : ∀ sought other, whole.index? sought = some other →
      other.isOf S id (whole.performOn name ix' request).database.catalog =
        other.isOf S id whole.catalog :=
    fun _ _ _ => Index.isOf_congr rfl rfl (htouches.storageOf?_eq _)
  obtain ⟨rfl, store, map, rfl, hf⟩ := hcorresponds
  cases request with
  | add session row =>
    have hop := Index.add_alike hf session row _ _ h.catalog
    rw [performOn, performOn]
    refine alike_operate h htied (.refl f _) hop (fun _ _ => rfl) hsame ?_
    exact fun _ _ _ _ _ hdb => ⟨rfl, hdb⟩
  | put session row table =>
    have hop := Index.add_alike hf session row _ _ h.catalog
    rw [performOn, performOn]
    refine alike_operate h htied (.refl f _) hop (fun _ _ => rfl) hsame ?_
    exact fun _ _ _ _ _ hdb => ⟨rfl, hdb.setTable _ _⟩
  | remove session row =>
    have hop := Index.remove_alike hf session row _ _ h.catalog
    rw [performOn, performOn]
    refine alike_operate h htied (.refl f _) hop (fun _ _ => rfl) hsame ?_
    exact fun _ _ _ _ _ hdb => ⟨rfl, hdb⟩
  | truncate session =>
    have hop := Index.truncate_alike hf session _ _ h.catalog
    rw [performOn, performOn]
    refine alike_operate h htied (.refl f _) hop (fun _ _ => rfl) hsame ?_
    exact fun _ _ _ _ _ hdb => ⟨rfl, hdb⟩
  | drop session =>
    have hop := Index.drop_alike hf session _ _ h.catalog
    rw [performOn, performOn]
    refine alike_operate h htied (.refl f _) hop (fun _ _ => rfl) hsame ?_
    exact fun _ _ _ _ _ hdb => ⟨rfl, hdb⟩
  | close session =>
    have hop := Index.close_alike hf session _ _ h.catalog
    rw [performOn, performOn]
    refine alike_operate h htied (.refl f _) hop (fun _ _ => rfl) hsame ?_
    exact fun _ _ _ _ hcorresponds hdb => ⟨rfl, hdb.setIndex hcorresponds name⟩
  | markRebuilt =>
    have hop := Index.markRebuilt_alike hf _ _ h.catalog
    rw [performOn, performOn]
    refine alike_operate h htied (.refl f _) hop (fun _ _ => rfl) hsame ?_
    exact fun _ _ _ _ hcorresponds hdb => ⟨rfl, hdb.setIndex hcorresponds name⟩
  | find session =>
    have hop := Index.find_alike hf session _ _ h.catalog
    rw [performOn, performOn]
    refine alike_operate h htied (.refl f _) hop (fun _ _ => rfl) hsame ?_
    exact fun _ _ _ _ _ hdb => ⟨rfl, hdb⟩
  | search session row =>
    have hop := Index.search_alike hf session row _ _ h.catalog
    rw [performOn, performOn]
    refine alike_operate h htied (.refl f _) hop (fun _ _ => rfl) hsame ?_
    exact fun _ _ _ _ _ hdb => ⟨rfl, hdb⟩
  | cursor session row =>
    have hop := Index.search_alike hf session row _ _ h.catalog
    rw [performOn, performOn]
    refine alike_operate h htied (.refl f _) hop (fun _ _ => rfl) hsame ?_
    exact fun _ _ _ _ hcursor hdb => ⟨hcursor ▸ rfl, hdb⟩
  | key row =>
    have hop := Operation.Alike.ofExcept .decode (ix.key row) _ _ h.catalog
    rw [performOn, performOn]
    refine alike_operate h htied (.refl f _) hop (fun _ _ => rfl) hsame ?_
    exact fun _ _ _ _ hkey hdb => ⟨hkey ▸ rfl, hdb⟩
  | setCost cost =>
    have hcost : Index.Corresponds f (Index.mapNameOf ix.id) ix.id { ix with cost }
        { ix.moved store map with cost } :=
      ⟨rfl, store, map, rfl, hf.handle, hf.name, hf.store⟩
    exact ⟨rfl, rfl, h.setIndex hcost name⟩
  | info =>
    refine ⟨?_, rfl, h⟩
    show Except.ok (Reply.info _ (ix.rowCount part.catalog) _) = Except.ok (Reply.info _ _ _)
    rw [Index.rowCount_eq_of_mirrors hf h.catalog]
    rfl
  | cost masks => exact ⟨rfl, rfl, h⟩
  | describe => exact ⟨rfl, rfl, h⟩

/-- **Opening an index** of the id over the storage, in both. -/
theorem Mirrors.open_own {session : Session} {d : Declaration} {table : String}
    (h : Mirrors S id f part whole) (htied : whole.Tied) (hwell : whole.catalog.WellFormed)
    (hok : (session.openIndex d table whole.catalog).answer = .ok ix')
    (hown : ix'.isOf S id (session.openIndex d table whole.catalog).catalog = true)
    (name : String) :
    ∃ g ix, (session.openIndex d table part.catalog).answer = .ok ix ∧
      ix.isOf S id (session.openIndex d table part.catalog).catalog = true ∧
      Alike S id g (part.perform (.openIndex name session d table))
        (whole.perform (.openIndex name session d table)) := by
  obtain ⟨storage, hstorage, hopens⟩ := Session.openIndex_opens hok
  obtain ⟨rfl, hopened⟩ := Index.isOf_iff.mp hown
  obtain rfl := Option.some.inj ((hopens.tied hwell hstorage).opened.symm.trans hopened)
  obtain ⟨hpersistent, hsession⟩ := Session.storageFor_eq_named.mp hstorage
  have hname : d.mapName = Index.mapNameOf ix'.id := by
    rw [d.mapName_of_persistent hpersistent, hopens.id]
  obtain ⟨g, hextends, hop⟩ :=
    Session.openIndex_alike (hname ▸ h.catalog) hwell hpersistent hsession table
  rw [hname, ← hopens.id] at hop
  have hsame : ∀ sought other, whole.index? sought = some other →
      other.isOf S ix'.id (session.openIndex d table whole.catalog).catalog =
        other.isOf S ix'.id whole.catalog := fun _ _ hother => isOf_opened htied hopens hother
  obtain ⟨ix, hpart, hcorresponds⟩ := (hok ▸ hop.answer).of_ok
  have hdb := h.withCatalogs htied hextends hop.catalog hsame
  refine ⟨g, ix, hpart, (hdb.isOf_of_corresponds hcorresponds).1, ?_⟩
  rw [perform, perform]
  refine alike_operate h htied hextends hop (fun _ _ => rfl) ?_ ?_
  · rw [catalog_operate fun _ _ => rfl]
    exact hsame
  exact fun _ _ _ _ hcorresponds hdb => ⟨rfl, hdb.setIndex hcorresponds name⟩

end Database

end GeometryIndex
