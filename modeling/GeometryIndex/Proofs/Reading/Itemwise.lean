import GeometryIndex.Proofs.Reading.Agreement
import GeometryIndex.Proofs.Reading.Grammar

/-!
# Reading — the items of a collection, each told to a state of its own

`Target.itemwise` gives every item of the outermost collection a fresh state, tells it the whole
item, and gathers the states in order.  What is nested inside an item is told to the state of that
item, so the items do not see each other, and none of them sees the collection.

* `Target.itemwise_relates`: inside an item, the state is the one that the item alone would lead to;
* `Geometry.parse_itemwise`: hence the states gathered from a collection are those that the events
  of its items lead to, each from a fresh start.
-/

namespace GeometryIndex

universe u

/-- Where the geometry as a whole is told, the states gathered from the items so far; inside an
item, the state of that item. -/
inductive Itemwise (σ : Type u) : Type u
  | whole (items : List σ)
  | item (state : σ)

namespace Itemwise

variable {σ : Type u}

/-- A change of the state of an item.  What is told of the geometry as a whole is not kept. -/
def change (f : σ → σ) : Itemwise σ → Itemwise σ
  | .whole items => .whole items
  | .item state => .item (f state)

end Itemwise

namespace Target

variable {σ : Type u}

/-- Gives each item of the outermost collection a fresh state. -/
def itemwise (t : Target σ) (fresh : σ) : Target (Itemwise σ) where
  startPoint srid := .change (t.startPoint srid)
  startLineString srid n := .change (t.startLineString srid n)
  startPolygon srid inner n := .change (t.startPolygon srid inner n)
  startInnerRing n := .change (t.startInnerRing n)
  endPolygon := .change t.endPolygon
  startCollection c srid n := .change (t.startCollection c srid n)
  startItem index total
    | .whole items => (.whole items, some (.item fresh))
    | .item state => (.item (t.startItem index total state).1, none)
  endItem
    | some (.item own), _, _, .whole items => .whole (items ++ [own])
    | _, index, total, state => state.change (t.endItem none index total)
  endCollection c := .change (t.endCollection c)
  addCoordinate c index total := .change (t.addCoordinate c index total)

variable {t : Target σ} {fresh : σ}

/-- **An item does not see that it is one.**  Inside an item, the target that gathers items and the
one that it is made of keep the same state. -/
theorem itemwise_relates (flat : t.IsFlat) (fresh : σ) :
    (t.itemwise fresh).Relates (fun (_ : Unit) x state => x = .item state) t where
  startPoint := by rintro _ _ _ _ rfl; rfl
  startLineString := by rintro _ _ _ _ _ rfl; rfl
  startPolygon := by rintro _ _ _ _ _ _ rfl; rfl
  startInnerRing := by rintro _ _ _ _ rfl; rfl
  endPolygon := by rintro _ _ _ rfl; rfl
  startCollection := by rintro _ _ _ _ _ _ rfl; rfl
  endCollection := by rintro _ _ _ _ rfl; rfl
  addCoordinate := by rintro _ _ _ _ _ _ rfl; rfl
  item := by
    rintro _ index total _ state rfl
    have along := flat index total state
    refine ⟨(), ?_, ?_⟩
    · show Itemwise.item (t.startItem index total state).1 = _
      rw [enter, along, Option.getD_none]
    · rintro _ last rfl
      show Itemwise.item (t.endItem none index total last) = _
      rw [leave]
      cases hstart : t.startItem index total state with
      | mk collection own =>
        rw [hstart] at along
        cases along
        rfl

end Target

namespace Geometry

open Walk

variable {σ : Type u} {t : Target σ} {fresh : σ}

/-- One item: a fresh state is told its events, and gathered. -/
theorem walkItem_itemwise (flat : t.IsFlat) {tree : Tree} {level : Nat} {outer : Int32}
    {expected : Option Kind} (hformed : tree.WellFormed (some outer))
    (hkind : tree.HasKind expected) (hlevels : tree.levels ≤ level) {input rest : Input}
    (hpass : input.Passes tree.bytes rest) (total index : Nat) (items : List σ) :
    walkItem (t.itemwise fresh) (walk (t.itemwise fresh) level (some outer) expected) total index
        input (.whole items) =
      ⟨.ok rest, .whole (items ++ [t.tellAll (tree.events outer) fresh])⟩ := by
  have alone : walk t level (some outer) expected input fresh =
      ⟨.ok rest, t.tellAll (tree.events outer) fresh⟩ :=
    (walk_reads flat level (some outer) expected _ _ _ _).2
      ⟨tree, ⟨hformed, hkind, hlevels⟩, hpass, rfl⟩
  obtain ⟨hresult, hstate⟩ := walk_agree (Target.itemwise_relates flat fresh) level ()
    (some outer) expected input (.item fresh) fresh rfl
  rw [alone] at hresult hstate
  unfold walkItem
  show Outcome.mk (walk (t.itemwise fresh) level _ _ input (.item fresh)).result _ = _
  rw [hresult, hstate rest hresult]
  rfl

/-- The items one after the other, each from a fresh state. -/
theorem each_walkItem_itemwise (flat : t.IsFlat) {level : Nat} {outer : Int32}
    {expected : Option Kind} (total : Nat) {trees : List Tree}
    (hformed : Tree.WellFormedItems outer expected trees)
    (hlevels : Tree.levelsOfItems trees ≤ level) {input rest : Input}
    (hpass : input.Passes (Tree.bytesOfItems trees) rest) (start : Nat) (items : List σ) :
    Walk.each
        (walkItem (t.itemwise fresh) (walk (t.itemwise fresh) level (some outer) expected) total)
        start trees.length input (.whole items) =
      ⟨.ok rest,
        .whole (items ++ trees.map fun tree => t.tellAll (tree.events outer) fresh)⟩ := by
  induction trees generalizing input start items with
  | nil =>
    obtain rfl := Input.passes_nil.1 hpass
    rw [List.map_nil, List.append_nil]
    rfl
  | cons tree trees ih =>
    obtain ⟨hkind, htree, htrees⟩ := hformed
    rw [Tree.levelsOfItems, Nat.max_le] at hlevels
    obtain ⟨mid, hfirst, hothers⟩ := Input.passes_append.1 hpass
    refine andThen_eq_ok_iff.2 ⟨mid, _,
      walkItem_itemwise flat htree hkind hlevels.1 hfirst total start items, ?_⟩
    rw [ih htrees hlevels.2 hothers, List.map_cons, List.append_assoc, List.singleton_append]

/-- A collection that is not an item itself. -/
theorem walk_itemwise (flat : t.IsFlat) {form : Form} {c : Collection} {trees : List Tree}
    {level : Nat} (hformed : (Tree.collection form c trees).WellFormed none)
    (hlevels : (Tree.collection form c trees).levels ≤ level + 1) {input rest : Input}
    (hpass : input.Passes (Tree.collection form c trees).bytes rest) :
    walk (t.itemwise fresh) (level + 1) none none input (.whole []) =
      ⟨.ok rest, .whole (trees.map fun tree =>
        t.tellAll (tree.events ((Tree.collection form c trees).srid 0)) fresh)⟩ := by
  rw [Tree.WellFormed] at hformed
  obtain ⟨hagree, hcount, hitems⟩ := hformed
  rw [Tree.levels, Nat.add_le_add_iff_right] at hlevels
  rw [Tree.bytes, List.append_assoc] at hpass
  obtain ⟨afterHeader, hheader, hbody⟩ := Input.passes_append.1 hpass
  obtain ⟨afterCount, hword, hrest⟩ := Input.passes_append.1 hbody
  have read : Header.readItem none none input =
      .ok (form.asHeader (.collection c) none, afterHeader) :=
    Header.readItem_eq_ok_iff.2 ⟨form, .collection c, hagree, by simp, hheader, rfl⟩
  have room : trees.length ≤ afterCount.remaining / leastItem := by
    rw [Nat.le_div_iff_mul_le (by decide)]
    rw [Tree.bytesOfItems_eq] at hrest
    exact Nat.le_trans (length_flatMap_ge fun tree _ => tree.length_bytes_ge) hrest.length_le
  have counted : Read.count form.order leastItem afterHeader = .ok (trees.length, afterCount) :=
    Read.count_eq_ok_iff.2 ⟨hcount, room, hword⟩
  refine read_eq_ok_iff.2 ⟨_, afterHeader, read, read_eq_ok_iff.2 ⟨_, afterCount, counted, ?_⟩⟩
  rw [tell_andThen]
  exact andThen_eq_ok_iff.2
    ⟨rest, _, each_walkItem_itemwise flat trees.length hitems hlevels hrest 0 [], rfl⟩

/-- **The states gathered from a collection** are those that its items lead to, each on its own from
a fresh start and with the SRID of the collection around it. -/
theorem parse_itemwise (flat : t.IsFlat) {form : Form} {c : Collection} {items : List Tree}
    (valid : (Tree.collection form c items).Valid) :
    parse (t.itemwise fresh) (Tree.collection form c items).bytes (.whole []) =
      (.ok (), .whole (items.map fun item =>
        t.tellAll (item.events ((Tree.collection form c items).srid 0)) fresh)) := by
  have whole : (Input.ofBytes (Tree.collection form c items).bytes).Passes
      (Tree.collection form c items).bytes ⟨(Tree.collection form c items).bytes.length, []⟩ :=
    ⟨(List.append_nil _).symm, (Nat.zero_add _).symm⟩
  unfold parse
  rw [Tree.room, walk_itemwise flat valid.1 valid.2 whole]
  rfl

end Geometry

end GeometryIndex
