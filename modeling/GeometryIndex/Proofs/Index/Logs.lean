import GeometryIndex.Proofs.Index.Histories
import GeometryIndex.Proofs.Index.Reports

/-!
# Indexes — the log as an account

What one request writes can be told from its reply and from the flags of the index before and after
it: `Exchange.divergence?` is the error that is due, and `Exchange.notice?` the notice.

* `Exchange.accounted`: what is due is what is written, and a request that is refused writes
  nothing;
* `Database.log_is_faithful`: hence the errors and the notices of a whole history are one account of
  the rows found missing and of the rebuilds asked for and done.
-/

namespace GeometryIndex

open Catalog

open Operation (mute_ofExcept)

/-! ### One request -/

/-- Whether a row is removed or the index is marked as rebuilt. -/
def IndexRequest.isNoted : IndexRequest → Bool
  | .remove .. | .markRebuilt => true
  | _ => false

/-- The response has routine entries only, and none if the request is refused. -/
structure Response.Orderly (r : Response) : Prop where
  routine : ∀ entry ∈ r.log, entry.isRoutine = true
  silent : ∀ e, r.reply = .error (.error e) → e.isRefusal = true → r.log = []

namespace Database

variable {db : Database} {α : Type} {op : Operation α} {next : α → Database → Reply × Database}

theorem log_operate : (db.operate op next).log = (op db.catalog).log := by
  cases hanswer : (op db.catalog).answer with
  | ok a => rw [operate_of_ok hanswer]
  | error e => rw [operate_of_error hanswer]

theorem reply_operate_iff {refusal : Refusal} :
    (db.operate op next).reply = .error refusal ↔
      ∃ e, (op db.catalog).answer = .error e ∧ refusal = .error e := by
  cases hanswer : (op db.catalog).answer with
  | ok a => simp [operate_of_ok hanswer]
  | error e => simp [operate_of_error hanswer, eq_comm]

theorem orderly_operate (h : op.Orderly) : (db.operate op next).Orderly where
  routine := log_operate ▸ h.routine db.catalog
  silent e hreply hrefusal := by
    obtain ⟨e', hanswer, he⟩ := reply_operate_iff.mp hreply
    cases he
    rw [log_operate]
    exact h.silent _ e hanswer hrefusal

theorem orderly_reply (db : Database) (reply : Reply) : (db.reply reply).Orderly :=
  ⟨List.forall_mem_nil _, fun _ _ _ => rfl⟩

theorem orderly_performOn (db : Database) (name : String) (ix : Index) {request : IndexRequest}
    (h : request.isNoted = false) : (db.performOn name ix request).Orderly := by
  cases request with
  | close session =>
    rw [performOn]
    exact orderly_operate (ix.orderly_close session)
  | add session row | put session row table =>
    rw [performOn]
    exact orderly_operate (ix.orderly_add session row)
  | key row =>
    rw [performOn]
    exact orderly_operate (mute_ofExcept _ _).orderly
  | find session =>
    rw [performOn]
    exact orderly_operate (ix.orderly_find session)
  | search session row | cursor session row =>
    rw [performOn]
    exact orderly_operate (ix.orderly_search session row)
  | truncate session =>
    rw [performOn]
    exact orderly_operate (ix.orderly_truncate session)
  | drop session =>
    rw [performOn]
    exact orderly_operate (ix.orderly_drop session)
  | setCost cost | cost masks | info | describe => exact orderly_reply _ _
  | markRebuilt => cases h
  | remove session row => cases h

end Database

/-- A request, and the database that it is made to. -/
structure Exchange where
  database : Database
  request : Request

namespace Exchange

def response (x : Exchange) : Response := x.database.perform x.request

/-- The error that is due: for a row that was to be removed from an index and was not in it. -/
def divergence? (x : Exchange) : Option LogEntry :=
  match x.request, x.response.reply with
  | .index name (.remove _ row), .error (.error (.integrity _)) =>
    (x.database.index? name).map fun ix => .missingRow ix.name ix.table row.id
  | _, _ => none

/-- The notice that is due: that an index was marked as rebuilt and had to be, with the number of
its keys at that moment, or that one which was opened again has to be. -/
def notice? (x : Exchange) : Option LogEntry :=
  match x.request, x.response.reply with
  | .index name .markRebuilt, _ =>
    match x.database.index? name, x.response.database.index? name with
    | some before, some after =>
      if before.needsRebuild && !after.needsRebuild then
        some (.rebuilt before.name (before.rowCount x.database.catalog))
      else none
    | _, _ => none
  | .openIndex name _ d _, .ok _ =>
    match x.response.database.index? name with
    | some opened =>
      if opened.needsRebuild && !d.create then some (.emptyOnReopen d.name d.mapName) else none
    | none => none
  | _, _ => none

/-- What a request writes to the log is what its reply and the flags of indexes amount to. -/
structure Accounted (x : Exchange) : Prop where
  errors : entriesAt .error x.response.log = x.divergence?.toList
  notices : entriesAt .info x.response.log = x.notice?.toList
  /-- Opening an index writes one entry about it, with the flag that the index has. -/
  opened : ∀ name session d table reply, x.request = .openIndex name session d table →
    x.response.reply = .ok reply → ∃ ix, x.response.database.index? name = some ix ∧
      entriesAt .debug x.response.log =
        [.openedIndex d.name d.id table d.mapName d.persistent d.create ix.needsRebuild]
  /-- An index that cannot be opened is not mentioned. -/
  unopened : ∀ name session d table refusal, x.request = .openIndex name session d table →
    x.response.reply = .error refusal → x.response.log = []
  /-- Neither is a request that fails because the index was closed, or because a row does not
  decode. -/
  refused : ∀ e, x.response.reply = .error (.error e) → e.isRefusal = true → x.response.log = []

variable {x : Exchange} {name : String} {ix : Index}

/-- What opening an index writes is of no concern to other requests. -/
theorem accounted_of_ne_open
    (hopens : ∀ name session d table, x.request ≠ .openIndex name session d table)
    (errors : entriesAt .error x.response.log = x.divergence?.toList)
    (notices : entriesAt .info x.response.log = x.notice?.toList)
    (refused : ∀ e, x.response.reply = .error (.error e) → e.isRefusal = true →
      x.response.log = []) : x.Accounted where
  errors := errors
  notices := notices
  opened name session d table _ hrequest := absurd hrequest (hopens name session d table)
  unopened name session d table _ hrequest := absurd hrequest (hopens name session d table)
  refused := refused

/-- A request that is not noted is accounted for if its response is orderly. -/
theorem accounted_of_orderly
    (hopens : ∀ name session d table, x.request ≠ .openIndex name session d table)
    (h : x.response.Orderly) (hdivergence : x.divergence? = none) (hnotice : x.notice? = none) :
    x.Accounted := by
  refine accounted_of_ne_open hopens ?_ ?_ h.silent
  · rw [hdivergence, entriesAt_routine h.routine (.inl rfl)]
    rfl
  · rw [hnotice, entriesAt_routine h.routine (.inr rfl)]
    rfl

theorem ne_open_of_index {request : IndexRequest} (h : x.request = .index name request)
    (other : String) (session : Session) (d : Declaration) (table : String) :
    x.request ≠ .openIndex other session d table := by
  rw [h]
  exact nofun

/-- Only a missing row is a divergence. -/
theorem divergence?_eq_none
    (h : ∀ fault, x.response.reply ≠ .error (.error (.integrity fault))) :
    x.divergence? = none := by
  rw [divergence?]
  split
  · next hreply => exact absurd hreply (h _)
  · rfl

theorem nothing_due {request : IndexRequest} (hrequest : x.request = .index name request)
    (h : request.isNoted = false) : x.divergence? = none ∧ x.notice? = none := by
  cases request with
  | remove session row => cases h
  | markRebuilt => cases h
  | _ => simp only [divergence?, notice?, hrequest, and_self]

theorem accounted_remove {session : Session} {row : Row}
    (hrequest : x.request = .index name (.remove session row))
    (hix : x.database.index? name = some ix) : x.Accounted := by
  have hresponse : x.response =
      x.database.operate (ix.remove session row) fun _ db => (.done, db) := by
    rw [response, hrequest, Database.perform_index hix, Database.performOn]
  have hopens := ne_open_of_index hrequest
  have hnotice : x.notice? = none := by simp only [notice?, hrequest]
  rcases ix.remove_reports session row x.database.catalog with
    ⟨hanswer, hlog⟩ | ⟨hother, hroutine, hsilent⟩
  · rw [Database.operate_of_error hanswer, hlog] at hresponse
    have hdivergence : x.divergence? = some (.missingRow ix.name ix.table row.id) := by
      simp only [divergence?, hresponse, hrequest, hix, Option.map_some]
    refine accounted_of_ne_open hopens ?_ ?_ fun e he h => ?_
    · rw [hdivergence, hresponse]
      rfl
    · rw [hnotice, hresponse]
      rfl
    · rw [hresponse] at he
      cases he
      cases h
  · have hreply : ∀ e, x.response.reply = .error (.error e) →
        (ix.remove session row x.database.catalog).answer = .error e := by
      intro e he
      rw [hresponse] at he
      obtain ⟨e', hanswer, hsame⟩ := Database.reply_operate_iff.mp he
      cases hsame
      exact hanswer
    have hlog : x.response.log = (ix.remove session row x.database.catalog).log := by
      rw [hresponse, Database.log_operate]
    have horderly : x.response.Orderly :=
      ⟨hlog ▸ hroutine, fun e he h => hlog.trans (hsilent e (hreply e he) h)⟩
    exact accounted_of_orderly hopens horderly
      (divergence?_eq_none fun fault hfault => hother fault (hreply _ hfault)) hnotice

theorem accounted_markRebuilt (hrequest : x.request = .index name .markRebuilt)
    (hix : x.database.index? name = some ix) : x.Accounted := by
  have hanswer : (ix.markRebuilt x.database.catalog).answer =
      .ok { ix with needsRebuild := false } := by
    rw [Index.markRebuilt_eq]
  have hresponse : x.response =
      ⟨.ok .done, x.database.setIndex name { ix with needsRebuild := false },
        if ix.needsRebuild then [.rebuilt ix.name (ix.rowCount x.database.catalog)] else []⟩ := by
    rw [response, hrequest, Database.perform_index hix, Database.performOn,
      Database.operate_of_ok hanswer, Index.markRebuilt_eq]
  have hafter : x.response.database.index? name = some { ix with needsRebuild := false } := by
    rw [hresponse]
    exact List.lookup_cons_self
  have hdivergence : x.divergence? = none := by simp only [divergence?, hrequest]
  have hnotice : x.notice? =
      if ix.needsRebuild then some (.rebuilt ix.name (ix.rowCount x.database.catalog))
      else none := by
    simp only [notice?, hrequest, hix, hafter, Bool.not_false, Bool.and_true]
  refine accounted_of_ne_open (ne_open_of_index hrequest) ?_ ?_ fun e he => ?_
  · rw [hdivergence, hresponse]
    cases ix.needsRebuild <;> rfl
  · rw [hnotice, hresponse]
    cases ix.needsRebuild <;> rfl
  · rw [hresponse] at he
    cases he

theorem accounted_open {session : Session} {d : Declaration} {table : String}
    (hrequest : x.request = .openIndex name session d table) : x.Accounted := by
  have hresponse : x.response = x.database.operate (session.openIndex d table) fun ix db =>
      (.done, db.setIndex name ix) := by
    rw [response, hrequest, Database.perform]
  have hdivergence : x.divergence? = none := by simp only [divergence?, hrequest]
  rcases session.openIndex_reports d table x.database.catalog with
    ⟨ix, hanswer, hlog⟩ | ⟨e, hanswer, hlog⟩
  · rw [Database.operate_of_ok hanswer, hlog] at hresponse
    have hreply : x.response.reply = .ok .done := by rw [hresponse]
    have hafter : x.response.database.index? name = some ix := by
      rw [hresponse]
      exact List.lookup_cons_self
    have hnotice : x.notice? =
        if ix.needsRebuild && !d.create then some (.emptyOnReopen d.name d.mapName) else none := by
      simp only [notice?, hrequest, hreply, hafter]
    refine ⟨?_, ?_, ?_, ?_, ?_⟩
    · rw [hdivergence, hresponse]
      cases ix.needsRebuild && !d.create <;> rfl
    · rw [hnotice, hresponse]
      cases ix.needsRebuild && !d.create <;> rfl
    · intro name' session' d' table' reply hsame _
      cases hrequest.symm.trans hsame
      refine ⟨ix, hafter, ?_⟩
      rw [hresponse]
      cases ix.needsRebuild && !d.create <;> rfl
    · intro name' session' d' table' refusal _ hfails
      rw [hreply] at hfails
      cases hfails
    · intro e he
      rw [hreply] at he
      cases he
  · rw [Database.operate_of_error hanswer, hlog] at hresponse
    have hreply : x.response.reply = .error (.error e) := by rw [hresponse]
    have hsilent : x.response.log = [] := by rw [hresponse]
    have hnotice : x.notice? = none := by simp only [notice?, hrequest, hreply]
    refine ⟨?_, ?_, ?_, fun _ _ _ _ _ _ _ => hsilent, fun _ _ _ => hsilent⟩
    · rw [hdivergence, hsilent]
      rfl
    · rw [hnotice, hsilent]
      rfl
    · intro name' session' d' table' reply _ hopened
      rw [hreply] at hopened
      cases hopened

/-- **Every request is accounted for.** -/
theorem accounted (x : Exchange) : x.Accounted := by
  cases hrequest : x.request with
  | openIndex name session d table => exact accounted_open hrequest
  | index name request =>
    cases hix : x.database.index? name with
    | none =>
      have hresponse : x.response = ⟨.error (.noIndex name), x.database, []⟩ := by
        rw [response, hrequest]
        simp only [Database.perform, hix]
      have horderly : x.response.Orderly := by
        rw [hresponse]
        exact ⟨List.forall_mem_nil _, fun _ _ _ => rfl⟩
      have hdivergence : x.divergence? = none := divergence?_eq_none fun fault hfault => by
        rw [hresponse] at hfault
        cases hfault
      have hnotice : x.notice? = none := by
        cases request <;> simp only [notice?, hrequest, hix]
      exact accounted_of_orderly (ne_open_of_index hrequest) horderly hdivergence hnotice
    | some ix =>
      by_cases hnoted : request.isNoted = true
      · cases request with
        | remove session row => exact accounted_remove hrequest hix
        | markRebuilt => exact accounted_markRebuilt hrequest hix
        | _ => cases hnoted
      · rw [Bool.not_eq_true] at hnoted
        have horderly : x.response.Orderly := by
          rw [response, hrequest, Database.perform_index hix]
          exact Database.orderly_performOn _ _ _ hnoted
        obtain ⟨hdivergence, hnotice⟩ := nothing_due hrequest hnoted
        exact accounted_of_orderly (ne_open_of_index hrequest) horderly hdivergence hnotice
  | insertRow table row | deleteRow table row | mapNames storage | containsMap storage name =>
    refine accounted_of_orderly (fun _ _ _ _ hopen => ?_) ?_ ?_ ?_
    · rw [hrequest] at hopen
      cases hopen
    · rw [response, hrequest]
      exact Database.orderly_reply _ _
    · simp only [divergence?, hrequest]
    · simp only [notice?, hrequest]

end Exchange

/-! ### A history -/

namespace Database

variable {db : Database}

/-- The requests of a history, each with the database that it is made to. -/
def exchanges (db : Database) : List Request → List Exchange
  | [] => []
  | request :: requests => ⟨db, request⟩ :: (db.perform request).database.exchanges requests

theorem run_eq_map (db : Database) (requests : List Request) :
    db.run requests = (db.exchanges requests).map Exchange.response := by
  induction requests generalizing db with
  | nil => rfl
  | cons request requests ih => exact congrArg _ (ih _)

theorem exchanges_append (db : Database) (earlier later : List Request) :
    db.exchanges (earlier ++ later) =
      db.exchanges earlier ++ (db.after earlier).exchanges later := by
  induction earlier generalizing db with
  | nil => rfl
  | cons request requests ih => exact congrArg _ (ih _)

theorem length_exchanges (db : Database) (requests : List Request) :
    (db.exchanges requests).length = requests.length := by
  induction requests generalizing db with
  | nil => rfl
  | cons request requests ih => exact congrArg (· + 1) (ih _)

/-- If each exchange writes what it has due, so do all of them. -/
theorem entriesAt_exchanges {level : Level} {due : Exchange → Option LogEntry}
    (h : ∀ x : Exchange, entriesAt level x.response.log = (due x).toList)
    (exchanges : List Exchange) :
    entriesAt level (exchanges.flatMap fun x => x.response.log) = exchanges.filterMap due := by
  induction exchanges with
  | nil => rfl
  | cons x exchanges ih =>
    rw [List.flatMap_cons, entriesAt, List.filter_append, ← entriesAt, ← entriesAt, h, ih]
    cases hdue : due x with
    | none => rw [List.filterMap_cons_none hdue]; rfl
    | some entry => rw [List.filterMap_cons_some hdue]; rfl

/-- **The log is a faithful account of a history.**  Its errors are, one for each and in order, the
removals that found no key of their row, with the name of the index and the id of the row.  Its
notices are the indexes that were marked as rebuilt and had to be, with the number of keys that the
map contained at that moment, and those that were opened again and have to be.  Every request is
accounted for by itself: opening an index writes one entry of the debug level, with the flag of the
index that is open from then on, and nothing is written by a request that fails because the index
was closed or because a row does not decode, nor by an index that cannot be opened. -/
theorem log_is_faithful (requests : List Request) :
    let log := (empty.run requests).flatMap Response.log
    entriesAt .error log = (empty.exchanges requests).filterMap Exchange.divergence? ∧
      entriesAt .info log = (empty.exchanges requests).filterMap Exchange.notice? ∧
      ∀ earlier request later, requests = earlier ++ request :: later →
        let x : Exchange := ⟨empty.after earlier, request⟩
        (empty.exchanges requests)[earlier.length]? = some x ∧
          (empty.run requests)[earlier.length]? = some x.response ∧ x.Accounted ∧
          ∀ ix : Index, ix.rowCount x.database.catalog =
            UInt64.ofNat (contents earlier ix.map.map).card := by
  have hlog : (empty.run requests).flatMap Response.log =
      (empty.exchanges requests).flatMap fun x => x.response.log := by
    rw [run_eq_map, List.flatMap_map]
  refine ⟨?_, ?_, fun earlier request later hrequests => ?_⟩
  · rw [hlog]
    exact entriesAt_exchanges (fun x => x.accounted.errors) _
  · rw [hlog]
    exact entriesAt_exchanges (fun x => x.accounted.notices) _
  · intro x
    have hexchange : (empty.exchanges requests)[earlier.length]? = some x := by
      rw [hrequests, exchanges_append, ← length_exchanges empty earlier,
        List.getElem?_append_right (Nat.le_refl _), Nat.sub_self]
      rfl
    refine ⟨hexchange, ?_, x.accounted, Index.rowCount_eq (reachable_after earlier)⟩
    rw [run_eq_map, List.getElem?_map, hexchange]
    rfl

/-- After the short history, the index is marked as rebuilt, truncated and closed; a row is added
too late, and the index is opened again. -/
def reopenedHistory : List Request :=
  let request (r : IndexRequest) : Request := .index "i" r
  let again : Declaration := { Declaration.sample with create := false }
  shortHistory ++ [request .markRebuilt, request (.truncate .sample), request (.close .sample),
    request (.add .sample ⟨4, []⟩), .openIndex "i" .sample again "T"]

/-- The row that was not in the index is one error, and there are two notices: that the index was
rebuilt, and that it was found empty.  What was added too late is not mentioned. -/
theorem log_is_faithful_reopened :
    let log := (empty.run reopenedHistory).flatMap Response.log
    entriesAt .error log = [.missingRow "PLACES" "T" 3] ∧
      entriesAt .info log = [.rebuilt "PLACES" 2, .emptyOnReopen "PLACES" "RTREE_3"] ∧
      ∃ r, (empty.run reopenedHistory)[9]? = some r ∧
        r.reply = .error (.error (.closed (.index "PLACES"))) ∧ r.log = [] := by
  obtain ⟨herrors, hnotices, hexchanges⟩ := log_is_faithful reopenedHistory
  obtain ⟨-, hresponse, haccounted, -⟩ :=
    hexchanges (reopenedHistory.take 9) _ [reopenedHistory[10]] rfl
  refine ⟨herrors.trans ?_, hnotices.trans ?_, _, hresponse, rfl, haccounted.refused _ rfl rfl⟩
  · decide +kernel
  · decide +kernel

end Database

end GeometryIndex
