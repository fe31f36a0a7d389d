import Shapefile.Proofs.Table.WrittenTable

/-! A table writer over a whole run, and a reader over any requests. Rows and
ready records are added or refused one by one, and a refused one leaves the
writer as it was; so the file that a closed writer leaves is the header, the
accepted records in order and the byte that ends it. -/
namespace Shapefile

namespace TableWriter

/-- What the user of a writer does with it. -/
inductive Call where
  | row (values : List Value)
  | record (bytes : List UInt8)

/-- The record that a call adds to a table, or why the table refuses it. -/
def Call.recordFor [Host] (h : TableHeader) : Call → Except TableError (List UInt8)
  | .row values => h.encodeRow values
  | .record bytes => do
    h.checkRecord bytes
    return bytes

def perform [Host] (w : TableWriter) : Call → Except TableError TableWriter
  | .row values => w.writeRow values
  | .record bytes => w.writeRecord bytes

/-- The answers to all calls, and the writer behind them. -/
def run [Host] (w : TableWriter) : List Call → List (Except TableError Unit) × TableWriter
  | [] => ([], w)
  | call :: calls =>
    match w.perform call with
    | .ok next => (.ok () :: (next.run calls).1, (next.run calls).2)
    | .error e => (.error e :: (w.run calls).1, (w.run calls).2)

/-- The records of the calls that a table accepts. -/
def accepted [Host] (h : TableHeader) (calls : List Call) : List (List UInt8) :=
  calls.filterMap fun call => (call.recordFor h).toOption

/-- The answers of a table to these calls. -/
def answers [Host] (h : TableHeader) (calls : List Call) : List (Except TableError Unit) :=
  calls.map fun call => (call.recordFor h).map fun _ => ()

/-- Everything that a closed writer has sent. -/
def file (w : TableWriter) : Bytes := w.staging.sent.flatten

theorem checkRecord_of_recordFor [Host] {h : TableHeader} {call : Call} {record : List UInt8}
    (hRecord : call.recordFor h = .ok record) : h.checkRecord record = .ok () := by
  cases call with
  | row values => exact TableHeader.checkRecord_of_encodeRow hRecord
  | record bytes =>
      obtain ⟨_, hChecked, hSame⟩ := bind_eq_ok hRecord
      cases hSame
      exact hChecked

/-- Every accepted record has the declared length. -/
theorem length_of_accepted [Host] {h : TableHeader} {calls : List Call} :
    ∀ record ∈ accepted h calls, record.length = h.recordLength := by
  intro record hRecord
  obtain ⟨call, _, hAccepted⟩ := List.mem_filterMap.mp hRecord
  cases hResult : call.recordFor h with
  | error e =>
      rw [hResult] at hAccepted
      cases hAccepted
  | ok other =>
      rw [hResult] at hAccepted
      cases hAccepted
      exact TableHeader.length_of_checkRecord (checkRecord_of_recordFor hResult)

/-- A call adds its record, or fails and changes nothing. -/
theorem perform_eq [Host] (w : TableWriter) (call : Call) :
    w.perform call = (call.recordFor w.header).map w.add := by
  cases call with
  | row values =>
      rw [perform, writeRow, Call.recordFor]
      cases hEncode : w.header.encodeRow values with
      | error e => rfl
      | ok record => exact writeRecord_eq_add (TableHeader.checkRecord_of_encodeRow hEncode)
  | record bytes =>
      rw [perform, writeRecord, Call.recordFor]
      cases w.header.checkRecord bytes with
      | error e => rfl
      | ok done => rfl

/-- After any calls the writer holds what it held and the accepted records. -/
theorem Holds.run [Host] {w : TableWriter} {h : TableHeader} {sent : List UInt8}
    {records : List (List UInt8)} (hWriter : w.Holds h sent records) (calls : List Call) :
    (w.run calls).1 = answers h calls ∧
      (w.run calls).2.Holds h sent (records ++ accepted h calls) := by
  induction calls generalizing w records with
  | nil =>
      refine ⟨rfl, ?_⟩
      rw [accepted, List.filterMap_nil, List.append_nil]
      exact hWriter
  | cons call calls ih =>
      have hPerform := w.perform_eq call
      rw [hWriter.header_eq] at hPerform
      cases hRecord : call.recordFor h with
      | error e =>
          rw [hRecord] at hPerform
          obtain ⟨hAnswers, hLast⟩ := ih hWriter
          simp only [TableWriter.run, hPerform, Except.map]
          refine ⟨?_, ?_⟩
          · rw [answers, List.map_cons, hRecord, hAnswers]
            rfl
          · rw [accepted, List.filterMap_cons, hRecord]
            exact hLast
      | ok record =>
          rw [hRecord] at hPerform
          obtain ⟨hAnswers, hLast⟩ := ih (hWriter.add record)
          simp only [TableWriter.run, hPerform, Except.map]
          refine ⟨?_, ?_⟩
          · rw [answers, List.map_cons, hRecord, hAnswers]
            rfl
          · rw [List.append_assoc] at hLast
            rw [accepted, List.filterMap_cons, hRecord]
            exact hLast

/-- Whatever a writer can stage, any calls are answered as the header alone
says, and leave the same file behind. -/
theorem exists_file_of_run [Host] (h : TableHeader) (calls : List Call) : ∃ file : Bytes,
    (∀ capacity, ((create h capacity).run calls).1 = answers h calls ∧
      ((create h capacity).run calls).2.close.file = file) ∧
    file.toList = h.fileOf (accepted h calls) := by
  refine ⟨(h.fileOf (accepted h calls)).toArray, fun capacity => ?_, rfl⟩
  obtain ⟨hAnswers, hLast⟩ := (create_holds h capacity).run calls
  exact ⟨hAnswers, Array.toList_inj.mp hLast.close⟩

end TableWriter

namespace TableReader

/-- What the user of a reader asks for. -/
inductive Query where
  | row (row : Nat)
  | cell (row column : Nat)

/-- The reader after some requests, whatever came of them. -/
def afterQueries [Host] (r : TableReader) (channel : Bytes) (queries : List Query) : TableReader :=
  queries.foldl (fun r query =>
    match query with
    | .row row => (r.row channel row).2
    | .cell row column => (r.cell channel row column).2) r

/-- After any requests the reader is still open on the table. -/
theorem Shows.afterQueries [Host] {r : TableReader} {channel : Bytes} {h : TableHeader}
    {forced : Option Text.CodePage} (hReader : r.Shows channel h forced) (queries : List Query) :
    (r.afterQueries channel queries).Shows channel h forced := by
  induction queries generalizing r with
  | nil => exact hReader
  | cons query queries ih =>
      cases query with
      | row row => exact ih (hReader.row_shows row)
      | cell row column => exact ih (hReader.cell_shows row column)

end TableReader

end Shapefile
