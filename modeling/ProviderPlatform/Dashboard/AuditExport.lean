import ProviderPlatform.Encoding.Csv
import ProviderPlatform.Encoding.IsoTime
import ProviderPlatform.Encoding.JsonParse
import ProviderPlatform.EventWatcher.Service
import ProviderPlatform.Provider

/-! # The audit export

The bundles of a PP as CSV. Whoever reads the file finds a record for each of the
bundles that were asked for, and from a record its very values. -/
namespace ProviderPlatform
open Encoding Encoding.IsoTime Store

/-! ## The file -/

def BundleStatus.name : BundleStatus → String
  | pending => "PENDING"
  | processing => "PROCESSING"
  | expired => "EXPIRED"
  | completed => "COMPLETED"
  | failed => "FAILED"

def BundleStatus.all : List BundleStatus := [pending, processing, expired, completed, failed]

/-- `BundleStatus[name]`. -/
def BundleStatus.named (name : String) : Option BundleStatus := all.find? (·.name == name)

def csvEscape (val : String) : List Char := Csv.escape val.toList

/-- The columns that are selected of a row. -/
structure AuditRecord where
  id : BundleId
  status : BundleStatus
  fee : Int
  createdAt : Time
  updatedAt : Time
  deriving DecidableEq

def OperationsBundle.auditRecord (b : OperationsBundle) : AuditRecord where
  id := b.id
  status := b.status
  fee := b.fee
  createdAt := b.createdAt
  updatedAt := b.updatedAt

namespace AuditRecord

def headers : List String := ["id", "status", "fee", "createdAt", "updatedAt"]

def fields (b : AuditRecord) : List String :=
  [b.id, b.status.name, toString b.fee, .ofList (toISOString b.createdAt),
    .ofList (toISOString b.updatedAt)]

def row (b : AuditRecord) : List Char := ",".toList.intercalate (b.fields.map csvEscape)

/-- `toISOString` throws on what is no date. -/
def Dated (b : AuditRecord) : Prop := IsDate b.createdAt ∧ IsDate b.updatedAt

instance (b : AuditRecord) : Decidable b.Dated := inferInstanceAs (Decidable (_ ∧ _))

def csv (bundles : List AuditRecord) : List Char :=
  "\n".toList.intercalate (",".toList.intercalate (headers.map (·.toList)) :: bundles.map row)

end AuditRecord

/-! ## The handler -/

inductive AuditExportResponse
  | badRequest (message : String)
  | internalServerError (message : String)
  | ok (filename : String) (body : List Char)
  deriving DecidableEq

/-- A date that was asked for; what is empty asks for none. -/
def dateParam (parseDate : String → Option Time) : Option String → Option (Option Time)
  | none | some "" => some none
  | some raw => (parseDate raw).map some

/-- The rows that are asked for. -/
def OperationsBundle.isAudited (ppPublicKey : PublicKey) (status : BundleStatus)
    (fromDate toDate : Option Time) (b : OperationsBundle) : Bool :=
  b.ppPublicKey == some ppPublicKey && b.status == status && b.deletedAt.isNone &&
    fromDate.all (· ≤ b.createdAt) && toDate.all (b.createdAt ≤ ·)

def Database.audited (db : Database) (ppPublicKey : PublicKey) (status : BundleStatus)
    (fromDate toDate : Option Time) : List AuditRecord :=
  (db.operationsBundles.select (·.isAudited ppPublicKey status fromDate toDate)).map
    (·.auditRecord)

def auditFilename (status : BundleStatus) (now : Time) : String :=
  "audit-export-" ++ status.name ++ "-" ++ .ofList ((toISOString now).take 10) ++ ".csv"

/-- The export of a PP. A status that is only inherited by every object passes the
check for a status, and the database refuses it. -/
def handleGetAuditExport (parseDate : String → Option Time) (db : Database) (now : Time)
    (ppPublicKey : PublicKey) (status fromRaw toRaw : Option String) : AuditExportResponse :=
  let statusParam := (status.filter (· != "")).getD "COMPLETED"
  if BundleStatus.named statusParam = none ∧ statusParam ∉ objectProperties then
    .badRequest ("Invalid status. Must be one of: " ++
      ", ".intercalate (BundleStatus.all.map (·.name)))
  else
    match dateParam parseDate fromRaw, dateParam parseDate toRaw with
    | some fromDate, some toDate =>
      match BundleStatus.named statusParam with
      | none => .internalServerError "Failed to generate audit export"
      | some status =>
        let bundles := db.audited ppPublicKey status fromDate toDate
        if ∀ b ∈ bundles, b.Dated then
          .ok (auditFilename status now) (AuditRecord.csv bundles)
        else .internalServerError "Failed to generate audit export"
    | _, _ => .badRequest "Invalid date format. Use ISO 8601 (e.g., 2026-01-01)."

/-! ## What a reader finds -/

namespace AuditRecord

/-- The text is read as the headers and a record for each of the bundles. -/
def ReadsAs (text : List Char) (bundles : List AuditRecord) : Prop :=
  Csv.read text = some ((headers :: bundles.map fields).map (·.map (·.toList)))

/-- The headers need no quotes. -/
theorem line_headers : Csv.line (headers.map (·.toList)) =
    ",".toList.intercalate (headers.map (·.toList)) := by decide

theorem row_eq (b : AuditRecord) : row b = Csv.line (b.fields.map (·.toList)) := by
  rw [row, Csv.line, List.map_map]
  rfl

theorem csv_eq (bundles : List AuditRecord) :
    csv bundles = Csv.document ((headers :: bundles.map fields).map (·.map (·.toList))) := by
  have hrows : bundles.map row = (bundles.map fields).map fun texts =>
      Csv.line (texts.map (·.toList)) := by
    rw [List.map_map]
    exact List.map_congr_left fun b _ => row_eq b
  rw [csv, hrows, ← line_headers]
  simp only [Csv.document, List.map_cons, List.map_map]
  rfl

theorem csv_reads (bundles : List AuditRecord) : ReadsAs (csv bundles) bundles := by
  rw [ReadsAs, csv_eq]
  apply Csv.read_document (by simp)
  intro record hrecord
  obtain ⟨texts, htexts, rfl⟩ := List.mem_map.mp hrecord
  rcases List.mem_cons.mp htexts with rfl | hbundle
  · decide
  · obtain ⟨b, -, rfl⟩ := List.mem_map.mp hbundle
    simp [fields]

theorem name_inj : ∀ {s s' : BundleStatus}, s.name = s'.name → s = s' := by
  intro s s' h
  cases s <;> cases s' <;> first | rfl | exact absurd h (by decide)

theorem toString_inj {m n : Int} (h : toString m = toString n) : m = n := by
  have hm := parseNumber_toString m stops_nil
  have hn := parseNumber_toString n stops_nil
  rw [h, hn] at hm
  exact (Prod.mk.inj (Option.some.inj hm)).1.symm

/-- **A record tells its values.** -/
theorem fields_inj {b b' : AuditRecord} (hb : b.Dated) (hb' : b'.Dated)
    (h : b.fields = b'.fields) : b = b' := by
  simp only [fields, List.cons.injEq, and_true] at h
  obtain ⟨hid, hstatus, hfee, hcreated, hupdated⟩ := h
  obtain ⟨id, status, fee, createdAt, updatedAt⟩ := b
  obtain ⟨id', status', fee', createdAt', updatedAt'⟩ := b'
  rw [mk.injEq]
  refine ⟨hid, name_inj hstatus, toString_inj hfee, ?_, ?_⟩
  · exact toISOString_inj hb.1 hb'.1 (String.ofList_injective hcreated)
  · exact toISOString_inj hb.2 hb'.2 (String.ofList_injective hupdated)

/-- So a text is read as one list of bundles only. -/
theorem ReadsAs.unique {text : List Char} {bundles bundles' : List AuditRecord}
    (h : ReadsAs text bundles) (h' : ReadsAs text bundles') (hb : ∀ b ∈ bundles, b.Dated)
    (hb' : ∀ b ∈ bundles', b.Dated) : bundles = bundles' := by
  have htexts := Option.some.inj (h.symm.trans h')
  have hfields : bundles.map fields = bundles'.map fields := by
    have hinj : Function.Injective fun texts : List String => texts.map (·.toList) :=
      List.map_injective_iff.mpr fun _ _ => String.toList_inj.mp
    exact (List.cons.inj (List.map_injective_iff.mpr hinj htexts)).2
  clear h h' htexts
  induction bundles generalizing bundles' with
  | nil => exact (List.map_eq_nil_iff.mp hfields.symm).symm
  | cons b bundles ih =>
    cases bundles' with
    | nil => cases hfields
    | cons b' bundles' =>
      obtain ⟨hfirst, hrest⟩ := List.cons.inj hfields
      obtain ⟨hd, hds⟩ := List.forall_mem_cons.mp hb
      obtain ⟨hd', hds'⟩ := List.forall_mem_cons.mp hb'
      rw [fields_inj hd hd' hfirst, ih hds hds' hrest]

end AuditRecord

section Export
variable {parseDate : String → Option Time} {db : Database} {now : Time} {ppPublicKey : PublicKey}
  {status fromRaw toRaw : Option String} {filename : String} {body : List Char}

/-- An answer is the file of the rows that were asked for. -/
theorem handleGetAuditExport_ok
    (h : handleGetAuditExport parseDate db now ppPublicKey status fromRaw toRaw =
      .ok filename body) :
    ∃ asked fromDate toDate, BundleStatus.named ((status.filter (· != "")).getD "COMPLETED") =
        some asked ∧
      dateParam parseDate fromRaw = some fromDate ∧ dateParam parseDate toRaw = some toDate ∧
      (∀ b ∈ db.audited ppPublicKey asked fromDate toDate, b.Dated) ∧
      body = AuditRecord.csv (db.audited ppPublicKey asked fromDate toDate) := by
  unfold handleGetAuditExport at h
  dsimp only at h
  split at h
  · cases h
  split at h
  · rename_i fromDate toDate hfrom hto
    split at h
    · cases h
    rename_i asked hasked
    split at h
    · rename_i hdated
      cases h
      exact ⟨asked, fromDate, toDate, hasked, hfrom, hto, hdated, rfl⟩
    · cases h
  · cases h

/-- The text is that of these rows: of each that was asked for, once. It is read as
their records, and as no others. -/
structure Database.ExportedAs (db : Database) (ppPublicKey : PublicKey) (asked : BundleStatus)
    (fromDate toDate : Option Time) (bundles : List OperationsBundle) (text : List Char) : Prop where
  once : (bundles.map (·.id)).Nodup
  asked : ∀ b, b ∈ bundles ↔ b ∈ db.operationsBundles.rows ∧ b.ppPublicKey = some ppPublicKey ∧
    b.status = asked ∧ b.deletedAt = none ∧ (∀ date ∈ fromDate, date ≤ b.createdAt) ∧
    ∀ date ∈ toDate, b.createdAt ≤ date
  reads : AuditRecord.ReadsAs text (bundles.map (·.auditRecord))
  unique : ∀ records : List AuditRecord, AuditRecord.ReadsAs text records →
    (∀ r ∈ records, r.Dated) → records = bundles.map (·.auditRecord)

/-- **The export is exact.** Whatever the table holds, the file of an answer is read
as the records of the PP's rows that have the status and the dates that were asked
for, and from each record its very values. -/
theorem audit_export_exact
    (h : handleGetAuditExport parseDate db now ppPublicKey status fromRaw toRaw =
      .ok filename body) :
    ∃ asked fromDate toDate bundles,
      BundleStatus.named ((status.filter (· != "")).getD "COMPLETED") = some asked ∧
      dateParam parseDate fromRaw = some fromDate ∧ dateParam parseDate toRaw = some toDate ∧
      db.ExportedAs ppPublicKey asked fromDate toDate bundles body := by
  obtain ⟨asked, fromDate, toDate, hasked, hfrom, hto, hdated, rfl⟩ := handleGetAuditExport_ok h
  refine ⟨asked, fromDate, toDate,
    db.operationsBundles.select (·.isAudited ppPublicKey asked fromDate toDate), hasked, hfrom, hto,
    Table.select_nodup _ _, fun b => ?_, AuditRecord.csv_reads _, fun records hrecords hd => ?_⟩
  · rw [Table.mem_select]
    simp only [OperationsBundle.isAudited, Bool.and_eq_true, beq_iff_eq, Option.isNone_iff_eq_none,
      Option.all_eq_true, decide_eq_true_eq, and_assoc, Option.mem_def]
  · exact hrecords.unique (AuditRecord.csv_reads _) hd hdated

end Export

namespace Small

/-- A completed bundle whose id has a comma. -/
def auditedDb : Database :=
  { state.db with
    operationsBundles := ⟨[{
      id := "deposit 10,create a 4", status := .completed, channelContractId := some "C",
      ttl := 0, operationsMLXDR := ["deposit 10", "create a 4"], fee := 6,
      ppPublicKey := some "GPP", createdAt := 951782400000, updatedAt := 951782401000 }],
      List.nodup_singleton _⟩ }

end Small

/-- The export of the one bundle. -/
theorem audit_export_exact_small : ∃ body bundles,
    String.ofList body = "id,status,fee,createdAt,updatedAt\n\"deposit 10,create a 4\"," ++
      "COMPLETED,6,2000-02-29T00:00:00.000Z,2000-02-29T00:00:01.000Z" ∧
    Small.auditedDb.ExportedAs "GPP" .completed none none bundles body := by
  have hok : handleGetAuditExport (fun _ => none) Small.auditedDb 0 "GPP" none none none =
      .ok (auditFilename .completed 0)
        (AuditRecord.csv (Small.auditedDb.audited "GPP" .completed none none)) := by decide +kernel
  obtain ⟨asked, fromDate, toDate, bundles, hasked, hfrom, hto, hexported⟩ := audit_export_exact hok
  cases hasked
  cases hfrom
  cases hto
  exact ⟨_, bundles, by decide +kernel, hexported⟩

end ProviderPlatform
