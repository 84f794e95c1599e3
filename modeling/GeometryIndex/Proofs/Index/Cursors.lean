import GeometryIndex.Proofs.Index.Histories

/-!
# Indexes — cursors

A cursor is opened over the keys that an index finds at that moment.  What it replies later depends
on these keys, on how often it was moved, and on the rows that the table has when it is asked
(`Cursor.replyAt`); whatever else happened to the index, its map or other cursors does not matter.

* `Cursor.perform_afterMoves`: one request to a cursor, by the number of its moves so far;
* `Browsing.cursor_perform`, `Browsing.cursor_after`: hence where a cursor stands after one moment
  and after any moments of a program that goes on working with the database;
* `Index.cursor_is_snapshot`: so for every cursor that an index opens.
-/

namespace GeometryIndex

open Catalog

/-! ### What can be asked of a cursor -/

inductive CursorRequest
  | advance
  | next
  | previous
  | row
  /-- The row that is compared in a search, which is the whole row. -/
  | searchRow
  | currentKey

inductive CursorReply
  | flag (value : Bool)
  | item (row : Option (Except Error Row))
  | row (row : Except Error Row)
  | key (key : Option Key)

/-- Whether a cursor is moved by a request. -/
def CursorRequest.moves : CursorRequest → Bool
  | .advance | .next => true
  | _ => false

namespace Cursor

/-- The reply to a request, with the table as it is at that time, and the cursor after it. -/
def perform (c : Cursor) (t : Table) : CursorRequest → CursorReply × Cursor
  | .advance => (.flag c.advance.isPositioned, c.advance)
  | .next => (.item (c.next t).1, (c.next t).2)
  | .previous => (.flag c.previous.1, c.previous.2)
  | .row | .searchRow => (.row (c.row t), c)
  | .currentKey => (.key c.current, c)

/-! ### Where a cursor stands -/

/-- The key that a cursor over `keys` stands on after some moves. -/
def keyAt (keys : List Key) : (moved : Nat) → Option Key
  | 0 => none
  | moved + 1 => keys[moved]?

/-- A cursor over `keys` after some moves. -/
def afterMoves (keys : List Key) (table : String) (session : UInt64) (moved : Nat) : Cursor :=
  ⟨keys.drop moved, keyAt keys moved, table, session⟩

/-- The row of the key that a cursor over `keys` stands on. -/
def rowAt (keys : List Key) (table : String) (t : Table) (moved : Nat) : Except Error Row :=
  match keyAt keys moved with
  | some key => t.row key.row
  | none => .error (.integrity (.unpositioned table))

/-- What a cursor over `keys` replies after some moves. -/
def replyAt (keys : List Key) (table : String) (t : Table) (moved : Nat) :
    CursorRequest → CursorReply
  | .advance => .flag (decide (moved < keys.length))
  | .next => .item (keys[moved]?.map fun key => t.row key.row)
  | .previous => .flag false
  | .row | .searchRow => .row (rowAt keys table t moved)
  | .currentKey => .key (keyAt keys moved)

variable {keys : List Key} {table : String} {session : UInt64} {t : Table} {moved : Nat}

theorem start_eq_afterMoves (keys : List Key) (table : String) (session : UInt64) :
    start keys table session = afterMoves keys table session 0 := rfl

theorem advance_afterMoves :
    (afterMoves keys table session moved).advance =
      afterMoves keys table session (moved + 1) := by
  rw [afterMoves, advance, List.tail_drop, List.head?_drop]
  rfl

theorem isPositioned_afterMoves_succ :
    (afterMoves keys table session (moved + 1)).isPositioned = decide (moved < keys.length) := by
  show keys[moved]?.isSome = decide (moved < keys.length)
  grind

theorem next_afterMoves :
    (afterMoves keys table session moved).next t =
      (keys[moved]?.map fun key => t.row key.row, afterMoves keys table session (moved + 1)) := by
  rw [next, advance_afterMoves]
  show (if keys[moved]?.isSome then some ((afterMoves keys table session (moved + 1)).row t)
    else none, _) = (keys[moved]?.map _, _)
  simp only [row, afterMoves, keyAt]
  cases keys[moved]? <;> rfl

/-- **One request** to a cursor over `keys` that was moved some times. -/
theorem perform_afterMoves (request : CursorRequest) :
    (afterMoves keys table session moved).perform t request =
      (replyAt keys table t moved request,
        afterMoves keys table session (moved + if request.moves then 1 else 0)) := by
  cases request with
  | advance => rw [perform, advance_afterMoves, isPositioned_afterMoves_succ]; rfl
  | next => rw [perform, next_afterMoves]; rfl
  | previous | row | searchRow | currentKey => rfl

theorem keyAt_eq_none : keyAt keys moved = none ↔ moved = 0 ∨ keys.length < moved := by
  cases moved with
  | zero => simp [keyAt]
  | succ moved =>
    rw [keyAt, List.getElem?_eq_none_iff]
    omega

end Cursor

/-- A table that does not have a row says so. -/
theorem Table.row_ne_integrity {t : Table} {id : Int64} {fault : IntegrityFault} :
    t.row id ≠ .error (.integrity fault) := by
  rw [Table.row]
  split <;> simp

/-- The only rows that are not looked up are those of a cursor that stands on no key. -/
theorem Cursor.rowAt_eq_integrity {keys : List Key} {table : String} {t : Table} {moved : Nat} :
    (∃ fault, rowAt keys table t moved = .error (.integrity fault)) ↔
      moved = 0 ∨ keys.length < moved := by
  rw [← keyAt_eq_none, rowAt]
  cases keyAt keys moved with
  | none => simp
  | some key => simp [Table.row_ne_integrity]

/-! ### Cursors beside a database -/

/-- A program that works with a database and has cursors open. -/
structure Browsing where
  database : Database
  cursors : List Cursor

/-- What such a program can do at any time. -/
inductive Moment : Type 1
  /-- It asks something of the database. -/
  | request (request : Request)
  /-- It does anything to maps or stores, through whatever handles. -/
  | operation {α : Type} (operation : Operation α)
  /-- It asks something of the cursor at the given place. -/
  | cursor (place : Nat) (request : CursorRequest)

/-- Whether the cursor at a place is moved. -/
def Moment.moves (place : Nat) : Moment → Bool
  | .cursor place' asked => place' = place && asked.moves
  | _ => false

/-- The cursor that a response opens, if it does. -/
def Response.opened (response : Response) : List Cursor :=
  match response.reply with
  | .ok (.cursor cursor) => [cursor]
  | _ => []

namespace Browsing

/-- The program after one moment. -/
def perform (b : Browsing) : Moment → Browsing
  | .request request =>
    let response := b.database.perform request
    ⟨response.database, b.cursors ++ response.opened⟩
  | .operation op =>
    { b with database := { b.database with catalog := (op b.database.catalog).catalog } }
  | .cursor place request =>
    { b with
      cursors := b.cursors.modify place fun c =>
        (c.perform (b.database.table c.table) request).2 }

/-- The program after several moments. -/
def after (b : Browsing) (moments : List Moment) : Browsing := moments.foldl perform b

/-- The program with one cursor more. -/
def opening (b : Browsing) (cursor : Cursor) : Browsing :=
  { b with cursors := b.cursors ++ [cursor] }

/-- What the cursor at a place replies to a request. -/
def reply? (b : Browsing) (place : Nat) (request : CursorRequest) : Option CursorReply :=
  b.cursors[place]?.map fun c => (c.perform (b.database.table c.table) request).1

variable {b : Browsing} {place : Nat} {keys : List Key} {table : String} {session : UInt64}
  {moved : Nat}

/-- **One moment** leaves a cursor where it stands, or moves it by one. -/
theorem cursor_perform (h : b.cursors[place]? = some (.afterMoves keys table session moved))
    (moment : Moment) :
    (b.perform moment).cursors[place]? =
      some (.afterMoves keys table session (moved + if moment.moves place then 1 else 0)) := by
  cases moment with
  | request request =>
    have hplace := (List.getElem?_eq_some_iff.mp h).1
    rw [perform, List.getElem?_append_left hplace]
    exact h
  | operation op => exact h
  | cursor place' request =>
    rw [perform, List.getElem?_modify, h]
    by_cases hplace : place' = place
    · simp [hplace, Moment.moves, Cursor.perform_afterMoves]
    · simp [hplace, Moment.moves]

/-- **Any moments** leave a cursor where its moves have taken it. -/
theorem cursor_after (h : b.cursors[place]? = some (.afterMoves keys table session moved))
    (moments : List Moment) :
    (b.after moments).cursors[place]? =
      some (.afterMoves keys table session (moved + moments.countP (Moment.moves place))) := by
  induction moments generalizing b moved with
  | nil => exact h
  | cons moment moments ih =>
    rw [after, List.foldl_cons, ← after, ih (cursor_perform h moment), List.countP_cons,
      ← Nat.add_assoc, Nat.add_right_comm]

end Browsing

/-! ### The keys that a cursor is opened over -/

namespace Index

variable {ix : Index} {session : Session} {row : Option Row} {c : Catalog} {M : Contents}
  {cursor : Cursor}

/-- Whether a search with a row is for a key; without a row it is for all. -/
def seeks (ix : Index) (row : Option Row) (key : Key) : Bool :=
  match row with
  | none => true
  | some row =>
    match ix.key row with
    | .ok query => key.intersects query
    | .error _ => false

/-- A search that succeeds was made through an open index. -/
theorem isClosed_of_search (hok : (ix.search session row c).answer = .ok cursor) :
    ix.isClosed c = false := by
  rw [isClosed_eq_false]
  cases row with
  | none =>
    cases hindex : ix.closed with
    | true =>
      rw [search, find, Operation.bind_of_error (requireOpen_of_closed hindex)] at hok
      cases hok
    | false =>
      rw [search, find, Operation.bind_of_ok (requireOpen_of_open hindex)] at hok
      cases hmap : c.isClosed ix.map with
      | false => exact ⟨rfl, rfl⟩
      | true =>
        rw [Operation.bind_of_error (MapHandle.keys_of_closed hmap)] at hok
        cases hok
  | some row =>
    rcases openKey_cases ix row c with ⟨key, hindex, -, hopenKey⟩ | ⟨e, hopenKey⟩
    · rw [search, Operation.bind_of_ok hopenKey, Operation.bind_of_ok (Operation.write_eq _)] at hok
      cases hmap : c.isClosed ix.map with
      | false => exact ⟨hindex, rfl⟩
      | true =>
        rw [Operation.bind_of_error (MapHandle.keysIntersecting_of_closed hmap key)] at hok
        cases hok
    · rw [search, Operation.bind_of_error hopenKey] at hok
      cases hok

/-- A search that succeeds leads to a cursor before the first of the keys that it is for. -/
theorem search_of_ok (hok : (ix.search session row c).answer = .ok cursor) :
    cursor = .start ((c.entries ix.map.map).toList.filter (ix.seeks row)) ix.table session.id := by
  have hopen := isClosed_of_search hok
  cases row with
  | none =>
    rw [search, find_of_open hopen] at hok
    cases hok
    exact congrArg (Cursor.start · _ _) (List.filter_true _).symm
  | some row =>
    cases hkey : ix.key row with
    | ok query =>
      have hseeks : ix.seeks (some row) = fun key => key.intersects query := by
        funext key
        simp only [seeks, hkey]
      rw [search_of_open hopen hkey, Entries.select_eq_filter, ← hseeks] at hok
      cases hok
      rfl
    | error fault =>
      rcases openKey_cases ix row c with ⟨key, -, hkey', -⟩ | ⟨e, hopenKey⟩
      · rw [hkey] at hkey'
        cases hkey'
      · rw [search, Operation.bind_of_error hopenKey] at hok
        cases hok

/-- **A cursor is a snapshot.**  Whatever operations came before, let an index open a cursor, over
all its keys or over those that a row is searched for.  They are in ascending order, and each is
there as often as the map of the index was given it, which a word of 32 bits counts.  Whatever is
done from then on, to the database, to maps and stores and to cursors, the cursor replies what a
cursor over these keys replies that was moved as often; it finds the rows that are in the table at
that time, and an integrity error if and only if it is before its first key or past its last one. -/
theorem cursor_is_snapshot {b : Browsing} (h : Reachable b.database.catalog M)
    (hopened : (ix.search session row b.database.catalog).answer = .ok cursor) :
    ∃ keys : List Key, cursor = .start keys ix.table session.id ∧
      keys.Pairwise (fun a b => a.order b ≠ .gt) ∧
      (∀ key, keys.count key =
        if ix.seeks row key then (M ix.map.map).count key % UInt32.size else 0) ∧
      ∀ moments : List Moment,
        let place := b.cursors.length
        let later := (b.opening cursor).after moments
        let moved := moments.countP (Moment.moves place)
        let t := later.database.table ix.table
        (∀ request, later.reply? place request =
          some (Cursor.replyAt keys ix.table t moved request)) ∧
        ((∃ fault, later.reply? place .row = some (.row (.error (.integrity fault)))) ↔
          moved = 0 ∨ keys.length < moved) := by
  have hentries := h.holds.entries ix.map.map
  let keys := (b.database.catalog.entries ix.map.map).toList.filter (ix.seeks row)
  have hstart : cursor = .start keys ix.table session.id := search_of_ok hopened
  have hreply (moments : List Moment) (request : CursorRequest) :
      ((b.opening cursor).after moments).reply? b.cursors.length request =
        some (Cursor.replyAt keys ix.table
          (((b.opening cursor).after moments).database.table ix.table)
          (moments.countP (Moment.moves b.cursors.length)) request) := by
    have hplace : (b.opening cursor).cursors[b.cursors.length]? =
        some (.afterMoves keys ix.table session.id 0) := by
      rw [← Cursor.start_eq_afterMoves, ← hstart]
      simp [Browsing.opening]
    rw [Browsing.reply?, Browsing.cursor_after hplace, Nat.zero_add, Option.map_some,
      Cursor.perform_afterMoves]
    rfl
  refine ⟨keys, hstart, (Entries.pairwise_toList hentries.sorted).filter _, fun key => ?_,
    fun moments => ⟨hreply moments, ?_⟩⟩
  · cases hseeks : ix.seeks row key with
    | true => rw [List.count_filter hseeks, hentries.count_toList, if_pos rfl]
    | false =>
      rw [if_neg (by simp), List.count_eq_zero]
      exact fun hmem => absurd (List.mem_filter.mp hmem).2 (by simp [hseeks])
  · simp only [hreply, Cursor.replyAt, Option.some.injEq, CursorReply.row.injEq]
    exact Cursor.rowAt_eq_integrity

/-- A table with two rows; the first one is put into the index twice. -/
def twiceHistory : List Request :=
  [.openIndex "i" .sample .sample "T", .index "i" (.put .sample ⟨1, []⟩ "T"),
    .index "i" (.add .sample ⟨1, []⟩), .index "i" (.put .sample ⟨2, []⟩ "T")]

/-- The index is truncated and dropped, and the first row deleted, while a cursor is moved; the
second row is put in once more. -/
def meanwhile : List Moment :=
  [.cursor 0 .advance, .request (.index "i" (.truncate .sample)), .cursor 0 .next,
    .request (.index "i" (.put .sample ⟨2, [.null]⟩ "T")), .cursor 0 .previous,
    .request (.index "i" (.drop .sample)), .request (.deleteRow "T" 1),
    .operation (StoreId.close ⟨0⟩)]

theorem cursor_is_snapshot_meanwhile :
    let b : Browsing := ⟨Database.empty.after twiceHistory, []⟩
    let cursor : Cursor := .start [⟨1, none⟩, ⟨1, none⟩, ⟨2, none⟩] "T" 1
    let later := (b.opening cursor).after meanwhile
    ((Index.sample ⟨0⟩).search .sample none b.database.catalog).answer = .ok cursor ∧
      later.reply? 0 .currentKey = some (.key (some ⟨1, none⟩)) ∧
      later.reply? 0 .row = some (.row (.error (.rowNotFound 1))) ∧
      later.reply? 0 .next = some (.item (some (.ok ⟨2, [.null]⟩))) := by
  intro b cursor later
  have hopened : ((Index.sample ⟨0⟩).search .sample none b.database.catalog).answer =
      .ok cursor := by decide
  have htable : later.database.table "T" = ⟨"T", [⟨2, [.null]⟩]⟩ := by decide +kernel
  obtain ⟨keys, hstart, -, -, hlater⟩ :=
    cursor_is_snapshot (Database.reachable_after twiceHistory) hopened
  obtain rfl := (Cursor.mk.inj hstart).1
  obtain ⟨hreply, -⟩ := hlater meanwhile
  have hreply (request : CursorRequest) : later.reply? 0 request =
      some (Cursor.replyAt [⟨1, none⟩, ⟨1, none⟩, ⟨2, none⟩] "T" (later.database.table "T") 2
        request) := hreply request
  rw [htable] at hreply
  exact ⟨hopened, hreply .currentKey, hreply .row, hreply .next⟩

end Index

end GeometryIndex
