import OlNode.Csv.Grammar
import OlNode.JsDate
import Mathlib.Data.List.Forall2

/-!
# CSV exports

`toCsv` writes a table of cells of any kind as text in UTF-16 code units, after a byte order mark.
Its output has one reading in the grammar of the format, and that is the table of the string forms.
A cell that has none, an invalid date, makes it throw.
-/
namespace OlNode.CsvExport

abbrev JsString := List UInt16

def ascii (text : String) : JsString := text.toList.map fun c => c.toNat.toUInt16

/-- A value of type `unknown`. Everything else is known by what `String` makes of it. -/
inductive Cell where
  | null
  | undefined
  | date (date : JsDate.Date)
  | bigint (n : Int)
  | other (string : JsString)
  deriving DecidableEq

structure CsvColumn where
  key : JsString
  header : JsString

/-- The value of each key; a key that is not there is undefined. -/
abbrev Row := JsString → Cell

def BOM : UInt16 := 0xFEFF

def crlf : JsString := [0x0D, 0x0A]

/-- `none` is the RangeError of an invalid date. -/
def Cell.toJsString : Cell → Option JsString
  | .date value => (JsDate.toISOString value).map ascii
  | .bigint n => some (ascii (toString n))
  | .other text => some text
  | .null => some (ascii "null")
  | .undefined => some (ascii "undefined")

/-- The part of `escapeCell` after `str` is known. -/
def escapeString (str : JsString) : JsString :=
  if str.any fun c => c = 0x22 || c = 0x2C || c = 0x0D || c = 0x0A then
    0x22 :: (str.flatMap (fun c => if c = 0x22 then [0x22, 0x22] else [c]) ++ [0x22])
  else str

def escapeCell (value : Cell) : Option JsString :=
  if value = .null ∨ value = .undefined then some [] else value.toJsString.map escapeString

def joinCells (cells : List JsString) : JsString := List.intercalate [0x2C] cells

def toCsv (rows : List Row) (columns : List CsvColumn) : Option JsString := do
  let header ← columns.mapM fun c => escapeCell (.other c.header)
  let lines ← rows.mapM fun row => columns.mapM fun c => escapeCell (row c.key)
  some (BOM :: (List.intercalate crlf ((header :: lines).map joinCells) ++ crlf))

/-! ### What the cells say -/

inductive StringForm : Cell → JsString → Prop where
  | null : StringForm .null []
  | undefined : StringForm .undefined []
  | date (time : Int) : StringForm (.date (some time)) (ascii (JsDate.isoString time))
  | bigint (n : Int) : StringForm (.bigint n) (ascii (toString n))
  | other (string : JsString) : StringForm (.other string) string

def dialect : Csv.Dialect UInt16 where
  quote := 0x22
  comma := 0x2C
  cr := 0x0D
  lf := 0x0A
  distinct := by decide

theorem escapeString_eq (str : JsString) : escapeString str = dialect.escape str := rfl

theorem escape_nil : dialect.escape [] = [] := rfl

theorem escapeCell_iff (value : Cell) (written : JsString) :
    escapeCell value = some written ↔
      ∃ form, StringForm value form ∧ written = dialect.escape form := by
  constructor
  · intro escaped
    cases value with
    | null => exact ⟨[], .null, by simpa [escapeCell, escape_nil] using escaped.symm⟩
    | undefined => exact ⟨[], .undefined, by simpa [escapeCell, escape_nil] using escaped.symm⟩
    | date date =>
      cases date with
      | none => simp [escapeCell, Cell.toJsString, JsDate.toISOString] at escaped
      | some time =>
        refine ⟨_, .date time, ?_⟩
        simpa [escapeCell, Cell.toJsString, JsDate.toISOString, escapeString_eq, eq_comm]
          using escaped
    | bigint n =>
      refine ⟨_, .bigint n, ?_⟩
      simpa [escapeCell, Cell.toJsString, escapeString_eq, eq_comm] using escaped
    | other string =>
      refine ⟨_, .other string, ?_⟩
      simpa [escapeCell, Cell.toJsString, escapeString_eq, eq_comm] using escaped
  · rintro ⟨form, means, rfl⟩
    cases means <;> rfl

theorem escapeCell_eq_none_iff (value : Cell) :
    escapeCell value = none ↔ value = .date none := by
  constructor
  · intro throws
    cases value with
    | date date =>
      cases date with
      | none => rfl
      | some time => simp [escapeCell, Cell.toJsString, JsDate.toISOString] at throws
    | _ => simp [escapeCell, Cell.toJsString] at throws
  · rintro rfl
    rfl

private theorem mapM_some_iff {α β : Type} (f : α → Option β) (xs : List α) (ys : List β) :
    xs.mapM f = some ys ↔ List.Forall₂ (fun x y => f x = some y) xs ys := by
  induction xs generalizing ys with
  | nil => cases ys <;> simp
  | cons x xs ih =>
    rw [List.mapM_cons]
    cases first : f x with
    | none => cases ys <;> simp [first]
    | some y =>
      cases rest : xs.mapM f with
      | none => cases ys <;> simp [← ih, rest]
      | some values => cases ys <;> simp [← ih, rest, first]

private theorem mapM_none_iff {α β : Type} (f : α → Option β) (xs : List α) :
    xs.mapM f = none ↔ ∃ x ∈ xs, f x = none := by
  induction xs with
  | nil => simp
  | cons x xs ih =>
    rw [List.mapM_cons]
    cases first : f x with
    | none => simp [first]
    | some y =>
      cases rest : xs.mapM f with
      | none =>
        obtain ⟨z, member, fails⟩ := ih.mp rest
        simpa using .inr ⟨z, member, fails⟩
      | some values =>
        have succeed : ¬ ∃ x ∈ xs, f x = none := fun fails => by simp [ih.mpr fails] at rest
        simpa [first] using succeed

/-- The fields of a record are the string forms of the cells. -/
def Denotes (columns : List CsvColumn) (row : Row) (record : List JsString) : Prop :=
  List.Forall₂ (fun c field => StringForm (row c.key) field) columns record

private theorem forall₂_map_iff {α β γ : Type} {R : α → β → Prop} {f : β → γ} {xs : List α}
    {zs : List γ} : List.Forall₂ (fun x z => ∃ y, R x y ∧ z = f y) xs zs ↔
      ∃ ys, List.Forall₂ R xs ys ∧ zs = ys.map f := by
  induction xs generalizing zs with
  | nil => cases zs <;> simp
  | cons x xs ih =>
    cases zs with
    | nil => simp
    | cons z zs =>
      rw [List.forall₂_cons, ih]
      constructor
      · rintro ⟨⟨y, related, rfl⟩, ys, all, rfl⟩
        exact ⟨y :: ys, List.Forall₂.cons related all, rfl⟩
      · rintro ⟨ys, all, same⟩
        cases all with
        | cons related all =>
          obtain ⟨rfl, rfl⟩ := List.cons.inj same
          exact ⟨⟨_, related, rfl⟩, _, all, rfl⟩

private theorem row_iff (columns : List CsvColumn) (row : Row) (cells : List JsString) :
    columns.mapM (fun c => escapeCell (row c.key)) = some cells ↔
      ∃ record, Denotes columns row record ∧ cells = record.map dialect.escape := by
  rw [mapM_some_iff]
  simp only [escapeCell_iff]
  exact forall₂_map_iff

private theorem rows_iff (rows : List Row) (columns : List CsvColumn)
    (lines : List (List JsString)) :
    rows.mapM (fun row => columns.mapM fun c => escapeCell (row c.key)) = some lines ↔
      ∃ records, List.Forall₂ (Denotes columns) rows records ∧
        lines = records.map (List.map dialect.escape) := by
  rw [mapM_some_iff]
  simp only [row_iff]
  exact forall₂_map_iff

private theorem header_eq (columns : List CsvColumn) :
    columns.mapM (fun c => escapeCell (.other c.header)) =
      some ((columns.map (·.header)).map dialect.escape) := by
  rw [mapM_some_iff, List.map_map, List.forall₂_map_right_iff, List.forall₂_same]
  intro c _
  rfl

variable {columns : List CsvColumn}

private theorem toCsv_some_iff {rows : List Row} {output : JsString} :
    toCsv rows columns = some output ↔
      ∃ records, List.Forall₂ (Denotes columns) rows records ∧
        output = BOM :: (List.intercalate crlf
          ((columns.map (·.header) :: records).map fun record =>
            joinCells (record.map dialect.escape)) ++ crlf) := by
  unfold toCsv
  rw [header_eq, Option.bind_eq_bind, Option.bind_some, Option.bind_eq_bind,
    Option.bind_eq_some_iff]
  constructor
  · rintro ⟨lines, read, written⟩
    obtain ⟨records, denote, rfl⟩ := (rows_iff rows columns lines).mp read
    refine ⟨records, denote, ?_⟩
    simpa [Function.comp_def] using written.symm
  · rintro ⟨records, denote, rfl⟩
    refine ⟨_, (rows_iff rows columns _).mpr ⟨records, denote, rfl⟩, ?_⟩
    simp [Function.comp_def]

theorem toCsv_eq_none_iff (rows : List Row) (columns : List CsvColumn) :
    toCsv rows columns = none ↔ ∃ row ∈ rows, ∃ c ∈ columns, row c.key = .date none := by
  unfold toCsv
  rw [header_eq, Option.bind_eq_bind, Option.bind_some, Option.bind_eq_bind]
  simp only [Option.bind_eq_none_iff, reduceCtorEq, imp_false, ← Option.eq_none_iff_forall_ne_some,
    mapM_none_iff, escapeCell_eq_none_iff]

private theorem Denotes.ne_nil {row : Row} {record : List JsString}
    (denotes : Denotes columns row record) (nonempty : columns ≠ []) : record ≠ [] := by
  rintro rfl
  cases denotes
  exact nonempty rfl

private theorem denoted_ne_nil (nonempty : columns ≠ []) {rows : List Row}
    {records : List (List JsString)} (denote : List.Forall₂ (Denotes columns) rows records) :
    ∀ record ∈ records, record ≠ [] := by
  induction denote with
  | nil => simp
  | cons denotes _ ih => exact List.forall_mem_cons.mpr ⟨denotes.ne_nil nonempty, ih⟩

/-- The text after the byte order mark has one reading: the names of the columns, and one record
for each row. -/
def Reads (rows : List Row) (columns : List CsvColumn) (output : JsString) : Prop :=
  ∃ body records, output = BOM :: body ∧ List.Forall₂ (Denotes columns) rows records ∧
    ∀ parsed, Csv.File dialect body parsed ↔ parsed = columns.map (·.header) :: records

/-- An export reads back as its table; only an invalid date in a cell keeps it from being made. -/
theorem toCsv_reads (rows : List Row) (columns : List CsvColumn) (nonempty : columns ≠ []) :
    (toCsv rows columns = none ↔ ∃ row ∈ rows, ∃ c ∈ columns, row c.key = .date none) ∧
      ∀ output, toCsv rows columns = some output → Reads rows columns output := by
  refine ⟨toCsv_eq_none_iff rows columns, fun output written => ?_⟩
  obtain ⟨records, denote, rfl⟩ := toCsv_some_iff.mp written
  refine ⟨_, records, rfl, denote, fun parsed => ?_⟩
  have lines : ∀ record ∈ columns.map (·.header) :: records,
      Csv.Record dialect (joinCells (record.map dialect.escape)) record := by
    intro record member
    apply Csv.Record.write
    rcases List.mem_cons.mp member with rfl | inRecords
    · simpa using nonempty
    · exact denoted_ne_nil nonempty denote record inRecords
  have file := Csv.File.write dialect _ (List.cons_ne_nil _ _)
    (List.forall₂_map_left_iff.mpr (List.forall₂_same.mpr lines))
  constructor
  · exact fun other => other.unique file
  · rintro rfl
    exact file

def twoRows : List Row :=
  [fun key => if key = ascii "at" then .date (some 1500) else .other (ascii "a,\"b\"\n"),
    fun key => if key = ascii "at" then .null else .bigint (-7)]

def twoColumns : List CsvColumn := [⟨ascii "at", ascii "At"⟩, ⟨ascii "v", ascii "V"⟩]

/-- A date, a text that has to be quoted, nothing and a number. -/
theorem toCsv_reads_twoRows :
    Reads twoRows twoColumns (BOM :: ascii
      "At,V\r\n1970-01-01T00:00:01.500Z,\"a,\"\"b\"\"\n\"\r\n,-7\r\n") :=
  (toCsv_reads twoRows twoColumns (List.cons_ne_nil _ _)).2 _ (by decide)

end OlNode.CsvExport
