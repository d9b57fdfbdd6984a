import Rollup.Http.Server
import Rollup.Proofs.Csv.Reading
import Rollup.Proofs.Request.RoundTrip
import Rollup.Proofs.Service.Answering
import Rollup.Proofs.Store.Records
/-!
Downloads. A request for comma-separated values asks the database what the same request for JSON
asks, and rows of the same names always have a text. What can fail is the name of the file: it holds
the name of the table as the request gives it, and a header holds fewer names than a statement does.
-/
namespace Rollup

open Store (ExecutionError Row)

variable {σ : Type}

/-- All rows of an answer have the same names. -/
def Executor.SameColumns (db : Executor (StateM σ)) : Prop :=
  ∀ q d rows, ((db.rows q).run d).1 = .ok rows →
    ∃ names, ∀ row ∈ rows, row.map Prod.fst = names

theorem Store.executor_sameColumns : Store.executor.SameColumns := fun _ _ _ h =>
  Store.rows_names (Fallible.mapError_eq_ok_iff.mp h)

namespace Http

/-- Asks an endpoint for its answer. -/
structure Request.Posts (h : Request) (e : Endpoint) : Prop where
  method : h.method = "POST"
  path : h.path = e.path

variable {s : Server (StateM σ)} {moment : Moment} {h : Request} {r : Rollup.Request} {d d' : σ}

/-! ### Answers -/

/-- The format of a request does not show in its answer. -/
theorem answer_format (format : Option String) (db : Executor (StateM σ)) (timeColumn : String) :
    ({ r with format := format } : Rollup.Request).answer db timeColumn =
      r.answer db timeColumn := rfl

theorem rows_of_answer {db : Executor (StateM σ)} {timeColumn : String} {a : Answer}
    (h : (r.answer db timeColumn).run d = (.ok a, d')) :
    ∃ q, ((db.rows q).run d).1 = .ok a.rows := by
  cases hcompile : r.compile timeColumn with
  | error why =>
    rw [run_answer_of_rejected hcompile] at h
    cases h
  | ok statement =>
    refine ⟨statement.query, ?_⟩
    rw [run_answer_of_compiled hcompile] at h
    rcases hrows : (db.rows statement.query).run d with ⟨why | rows, d₁⟩
    · rw [hrows] at h
      cases h
    · rw [hrows] at h
      dsimp only at h
      split at h
      · split at h
        · cases h
        · cases h
          rfl
      · cases h
        rfl

theorem Problem.status_ne_ok (p : Problem) : p.status ≠ 200 := by
  cases p <;> simp [status]

/-! ### Responses -/

theorem Request.decode_of_read {bodyLimit : Nat} (hjson : h.holdsJson = true)
    (hsize : h.body.utf8ByteSize ≤ bodyLimit)
    (hread : Json.decodeLeading Rollup.Request.decode h.body = .ok r) :
    h.decode bodyLimit = .ok r := by
  unfold decode
  rw [hjson, if_neg (Nat.not_lt.mpr hsize), hread]
  rfl

namespace Server

theorem respond_of_posts (hposts : h.Posts .analytics) :
    s.respond moment h = s.analytics moment.stamp h := by
  unfold respond
  rw [hposts.path, Endpoint.ofPath?_path, hposts.method]
  rfl

theorem run_analytics_of_decoded {stamp : Stamp} (hdecode : h.decode s.bodyLimit = .ok r) :
    (s.analytics stamp h).run d =
      match (r.answer s.database s.timeColumn).run d with
      | (.error why, d') => ((Problem.ofService why).response stamp.identifier, d')
      | (.ok a, d') => (present r a stamp, d') := by
  unfold analytics
  rw [hdecode]
  simp only [run_bind]
  rcases (r.answer s.database s.timeColumn).run d with ⟨why | a, d'⟩ <;> rfl

end Server

/-! ### The name of a file -/

theorem isHeaderChar_of_identifier {c : Char} (h : c.isAlphanum ∨ c = '-') :
    isHeaderChar c = true := by
  rcases h with h | rfl
  · have hcontrol : ∀ n < 32, (Char.ofNat n).isAlphanum = false := by decide
    have hdelete : c ≠ '\x7f' := by
      rintro rfl
      exact absurd h (by decide)
    have hblank : ' ' ≤ c := by
      by_contra hlow
      have hlow : c.toNat < 32 := Nat.not_le.mp hlow
      rw [← Char.ofNat_toNat c, hcontrol _ hlow] at h
      cases h
    simp [isHeaderChar, hdelete, hblank]
  · decide

/-- The name of the table decides whether there is a file. -/
theorem download_eq {table identifier content : String}
    (hidentifier : ∀ c ∈ identifier.toList, c.isAlphanum ∨ c = '-') :
    download table identifier content =
      if table.toList.all isHeaderChar then
        ⟨200, [("content-type", "text/csv"), ("content-disposition",
          "attachment; filename=\"" ++ table ++ "_" ++ identifier ++ ".csv\"")], content⟩
      else .plain 500 "failed to parse header value" := by
  have hidentifier : identifier.toList.all isHeaderChar = true :=
    List.all_eq_true.mpr fun c hc => isHeaderChar_of_identifier (hidentifier c hc)
  have hfront : "attachment; filename=\"".toList.all isHeaderChar = true := by decide
  have hjoint : "_".toList.all isHeaderChar = true := by decide
  have hend : ".csv\"".toList.all isHeaderChar = true := by decide
  unfold download
  simp only [String.toList_append, List.all_append, hfront, hjoint, hend, hidentifier,
    Bool.true_and, Bool.and_true]

/-- The request for comma-separated values that is a request for JSON but for its format gets the
rows of that as a file, with the database asked the same, exactly if a header can hold the name of
the table as it was given. Otherwise the response fails. -/
theorem csv_alike_json {asJson asCsv : Request} {format : String} {moment moment' : Moment}
    (hcolumns : s.database.SameColumns)
    (hasJson : asJson.Posts .analytics) (hjson : asJson.decode s.bodyLimit = .ok r)
    (hformat : r.wantsCsv = false)
    (hasCsv : asCsv.Posts .analytics)
    (hcsv : asCsv.decode s.bodyLimit = .ok { r with format := some format })
    (hcase : Text.sameAsciiFold format "csv" = true)
    (hidentifier : ∀ c ∈ moment'.stamp.identifier.toList, c.isAlphanum ∨ c = '-')
    (hok : ((s.respond moment asJson).run d).1.status = 200) :
    ∃ (a : Answer) (content : String) (d' : σ),
      (s.respond moment asJson).run d = (.json 200 (a.encode moment.stamp), d') ∧
      Csv.ofRows a.rows = .ok content ∧
      (s.respond moment' asCsv).run d =
        (if r.table.toList.all isHeaderChar then
          ⟨200, [("content-type", "text/csv"), ("content-disposition", "attachment; filename=\"" ++
            r.table ++ "_" ++ moment'.stamp.identifier ++ ".csv\"")], content⟩
        else .plain 500 "failed to parse header value", d') := by
  rw [Server.respond_of_posts hasJson, Server.run_analytics_of_decoded hjson] at hok ⊢
  rw [Server.respond_of_posts hasCsv, Server.run_analytics_of_decoded hcsv]
  rcases hanswer : (r.answer s.database s.timeColumn).run d with ⟨why | a, d'⟩
  · rw [hanswer] at hok
    exact absurd hok (Problem.status_ne_ok _)
  · obtain ⟨q, hrows⟩ := rows_of_answer hanswer
    obtain ⟨names, hnames⟩ := hcolumns q d a.rows hrows
    obtain ⟨content, hcontent⟩ := Csv.exists_ofRows hnames
    have hwants : ({ r with format := some format } : Rollup.Request).wantsCsv = true := hcase
    have hsame := answer_format (r := r) (some format) s.database s.timeColumn
    refine ⟨a, content, d', ?_, hcontent, ?_⟩
    · simp [present, hformat]
    · rw [hsame, hanswer]
      simp only [present, hwants, if_true, hcontent, download_eq hidentifier]

/-- A server of the four visits. -/
def visitsServer : Server (StateM Store.Database) where
  database := Store.executor
  timeColumn := "day"
  bodyLimit := 2097152
  version := "0.1.0"

def visitsMoment : Moment := ⟨⟨"2024-03-01T00:00:00Z", "7e0a3c52-90bd-4f6e-8a11-5d2c4b9f1e60"⟩, 0⟩

/-- The number of rows of a table, in a format. -/
def rowCount (table : String) (format : Option String) : Rollup.Request where
  table := table
  measures := [⟨"ms", .count, none⟩]
  format := format

/-- A request as a server gets it. -/
def posted (r : Rollup.Request) : Request :=
  ⟨"POST", "/api/v1/analytics", [("content-type", "application/json")], r.encode.compact⟩

theorem posted_posts (r : Rollup.Request) : (posted r).Posts .analytics := by
  refine ⟨rfl, ?_⟩
  unfold Request.path posted
  dsimp only
  decide +kernel

theorem holdsJson_posted (r : Rollup.Request) : (posted r).holdsJson = true := by
  unfold Request.holdsJson Request.header? posted
  dsimp only
  decide +kernel

theorem decode_posted {table : String} {format : Option String}
    (hsize : (rowCount table format).encode.compact.utf8ByteSize ≤ visitsServer.bodyLimit) :
    (posted (rowCount table format)).decode visitsServer.bodyLimit =
      .ok (rowCount table format) := by
  have hreturning : (rowCount table format).Returning .text :=
    ⟨(fun _ h => by cases h), fun _ h => by cases h⟩
  have hnumbers : ∀ n ∈ (rowCount table format).encode.numbers, n.Survives := by
    cases format <;> exact fun _ h => by cases h
  exact Request.decode_of_read (h := posted (rowCount table format)) (holdsJson_posted _) hsize
    (Rollup.Request.decode_compact hreturning hnumbers).2

theorem csv_alike_json_visits : ∃ content d',
    (visitsServer.respond visitsMoment (posted (rowCount "visits" (some "Csv")))).run visits =
      (⟨200, [("content-type", "text/csv"), ("content-disposition",
        "attachment; filename=\"visits_7e0a3c52-90bd-4f6e-8a11-5d2c4b9f1e60.csv\"")], content⟩,
        d') := by
  have hjson := @decode_posted "visits" none (by decide +kernel)
  have hcsv := @decode_posted "visits" (some "Csv") (by decide +kernel)
  have hok : ((visitsServer.respond visitsMoment (posted (rowCount "visits" none))).run
      visits).1.status = 200 := by
    rw [Server.respond_of_posts (posted_posts _), Server.run_analytics_of_decoded hjson]
    decide +kernel
  have hall : visitsMoment.stamp.identifier.toList.all
      (fun c => c.isAlphanum || c == '-') = true := by decide +kernel
  have hidentifier : ∀ c ∈ visitsMoment.stamp.identifier.toList, c.isAlphanum ∨ c = '-' :=
    fun c hc => by simpa using List.all_eq_true.mp hall c hc
  obtain ⟨_, content, d', _, _, hcsv⟩ := csv_alike_json Store.executor_sameColumns
    (posted_posts _) hjson rfl (posted_posts _) hcsv (by decide +kernel) hidentifier hok
  exact ⟨content, d', hcsv⟩

/-- The end of a line behind the name of a table is no part of a statement, but would be one of a
header. -/
theorem csv_of_table_with_line_end :
    (posted (rowCount "visits\n" none)).decode visitsServer.bodyLimit =
      .ok (rowCount "visits\n" none) ∧
    (posted (rowCount "visits\n" (some "csv"))).decode visitsServer.bodyLimit =
      .ok { rowCount "visits\n" none with format := some "csv" } ∧
    ((visitsServer.respond visitsMoment (posted (rowCount "visits\n" none))).run visits).1.status =
      200 ∧
    ((visitsServer.respond visitsMoment (posted (rowCount "visits\n" (some "csv")))).run
      visits).1 = .plain 500 "failed to parse header value" := by
  have hjson := @decode_posted "visits\n" none (by decide +kernel)
  have hcsv := @decode_posted "visits\n" (some "csv") (by decide +kernel)
  refine ⟨hjson, hcsv, ?_, ?_⟩
  · rw [Server.respond_of_posts (posted_posts _), Server.run_analytics_of_decoded hjson]
    decide +kernel
  · rw [Server.respond_of_posts (posted_posts _), Server.run_analytics_of_decoded hcsv]
    decide +kernel

end Http

end Rollup
