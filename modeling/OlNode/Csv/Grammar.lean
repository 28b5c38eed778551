import Mathlib.Data.List.Basic

/-!
# Comma-separated values

The grammar of RFC 4180 over any alphabet: a file is a list of records, each ended by CRLF, a record
a list of fields with commas between, and a field either text without special characters or quoted,
with its quotes doubled. The last line break may be left out, but not after an empty text: a line
break at the end is not followed by another record. So read, no file has two derivations.
-/
namespace Csv

variable {α : Type} [DecidableEq α]

structure Dialect (α : Type) where
  quote : α
  comma : α
  cr : α
  lf : α
  distinct : [quote, comma, cr, lf].Nodup

variable (d : Dialect α)

/-- Every other character is TEXTDATA. -/
def Dialect.special (x : α) : Bool := x = d.quote || x = d.comma || x = d.cr || x = d.lf

def Dialect.double (x : α) : List α := if x = d.quote then [d.quote, d.quote] else [x]

def Dialect.quoted (content : List α) : List α :=
  d.quote :: (content.flatMap d.double ++ [d.quote])

inductive Field : List α → List α → Prop where
  | nonEscaped {text : List α} (plain : ∀ x ∈ text, d.special x = false) : Field text text
  | escaped (content : List α) : Field (d.quoted content) content

inductive Record : List α → List (List α) → Prop where
  | single {s f : List α} (field : Field d s f) : Record s [f]
  | more {s t f : List α} {fields : List (List α)} (field : Field d s f)
      (rest : Record t fields) : Record (s ++ d.comma :: t) (f :: fields)

inductive File : List α → List (List (List α)) → Prop where
  | unended {s : List α} {record : List (List α)} (only : Record d s record) (text : s ≠ []) :
      File s [record]
  | ended {s : List α} {record : List (List α)} (only : Record d s record) :
      File (s ++ [d.cr, d.lf]) [record]
  | more {s t : List α} {record : List (List α)} {records : List (List (List α))}
      (first : Record d s record) (rest : File t records) :
      File (s ++ d.cr :: d.lf :: t) (record :: records)

/-! ### Writing -/

/-- A field as it is written: quoted only if it has to be. -/
def Dialect.escape (content : List α) : List α :=
  if content.any d.special then d.quoted content else content

theorem Field.escape (content : List α) : Field d (d.escape content) content := by
  unfold Dialect.escape
  split
  next => exact .escaped content
  next none =>
    apply Field.nonEscaped
    simpa using none

theorem Record.write (fields : List (List α)) (some : fields ≠ []) :
    Record d (List.intercalate [d.comma] (fields.map d.escape)) fields := by
  induction fields with
  | nil => exact absurd rfl some
  | cons field fields ih =>
    cases fields with
    | nil => simpa using Record.single (Field.escape d field)
    | cons next fields =>
      have rest := ih (List.cons_ne_nil _ _)
      simpa using Record.more (Field.escape d field) rest

theorem File.write (records : List (List (List α))) (some : records ≠ []) {lines : List (List α)}
    (written : List.Forall₂ (Record d) lines records) :
    File d (List.intercalate [d.cr, d.lf] lines ++ [d.cr, d.lf]) records := by
  induction written with
  | nil => exact absurd rfl some
  | @cons line record lines records first rest ih =>
    cases rest with
    | nil => simpa using File.ended first
    | cons next later =>
      have tail := ih (List.cons_ne_nil _ _)
      simpa using File.more first tail

/-! ### Reading -/

/-- What follows a field does not continue it. -/
def Stops (rest : List α) : Prop := ∀ x ∈ rest.head?, x ≠ d.quote ∧ d.special x = true

section Unique

variable {d}

private theorem Stops.not_quote {x : α} {rest : List α} (stops : Stops d (x :: rest)) :
    x ≠ d.quote := (stops x rfl).1

private theorem plain_unique {s t rest rest' : List α} (plain : ∀ x ∈ s, d.special x = false)
    (plain' : ∀ x ∈ t, d.special x = false) (same : s ++ rest = t ++ rest')
    (stops : Stops d rest) (stops' : Stops d rest') : s = t ∧ rest = rest' := by
  induction s generalizing t with
  | nil =>
    cases t with
    | nil => exact ⟨rfl, same⟩
    | cons y t =>
      have first : rest.head? = some y := by
        rw [List.nil_append] at same
        simp [same]
      have stop := (stops y first).2
      simp [plain' y List.mem_cons_self] at stop
  | cons x s ih =>
    cases t with
    | nil =>
      have first : rest'.head? = some x := by
        rw [List.nil_append] at same
        simp [← same]
      have stop := (stops' x first).2
      simp [plain x List.mem_cons_self] at stop
    | cons y t =>
      rw [List.cons_append, List.cons_append, List.cons.injEq] at same
      obtain ⟨rfl, same⟩ := same
      obtain ⟨rfl, rests⟩ := ih (fun z member => plain z (List.mem_cons_of_mem _ member))
        (fun z member => plain' z (List.mem_cons_of_mem _ member)) same
      exact ⟨rfl, rests⟩

private theorem quoted_unique {content content' rest rest' : List α}
    (same : content.flatMap d.double ++ d.quote :: rest =
      content'.flatMap d.double ++ d.quote :: rest')
    (stops : Stops d rest) (stops' : Stops d rest') : content = content' ∧ rest = rest' := by
  induction content generalizing content' with
  | nil =>
    cases content' with
    | nil => simpa using same
    | cons y content' =>
      exfalso
      by_cases quote : y = d.quote
      · subst quote
        simp only [List.flatMap_nil, List.nil_append, List.flatMap_cons, Dialect.double, if_pos,
          List.cons_append, List.cons.injEq, true_and] at same
        subst same
        exact stops.not_quote rfl
      · simp only [List.flatMap_nil, List.nil_append, List.flatMap_cons, Dialect.double,
          if_neg quote, List.cons_append, List.cons.injEq] at same
        exact quote same.1.symm
  | cons x content ih =>
    cases content' with
    | nil =>
      exfalso
      by_cases quote : x = d.quote
      · subst quote
        simp only [List.flatMap_nil, List.nil_append, List.flatMap_cons, Dialect.double, if_pos,
          List.cons_append, List.cons.injEq, true_and] at same
        rw [← same] at stops'
        exact stops'.not_quote rfl
      · simp only [List.flatMap_nil, List.nil_append, List.flatMap_cons, Dialect.double,
          if_neg quote, List.cons_append, List.cons.injEq] at same
        exact quote same.1
    | cons y content' =>
      have heads : x = y ∧ content.flatMap d.double ++ d.quote :: rest =
          content'.flatMap d.double ++ d.quote :: rest' := by
        by_cases quote : x = d.quote <;> by_cases quote' : y = d.quote <;>
          simp_all [Dialect.double]
      obtain ⟨rfl, contents⟩ := heads
      obtain ⟨rfl, rests⟩ := ih contents
      exact ⟨rfl, rests⟩

theorem Field.unique {s t f g rest rest' : List α} (first : Field d s f) (second : Field d t g)
    (same : s ++ rest = t ++ rest') (stops : Stops d rest) (stops' : Stops d rest') :
    f = g ∧ rest = rest' := by
  -- Only a quoted field begins with a quote.
  have mixed : ∀ {text content rest rest' : List α}, (∀ x ∈ text, d.special x = false) →
      Stops d rest → text ++ rest ≠ d.quoted content ++ rest' := by
    intro text content rest rest' plain stops same
    cases text with
    | nil =>
      have head : rest.head? = some d.quote := by
        rw [List.nil_append] at same
        simp [same, Dialect.quoted]
      exact (stops _ head).1 rfl
    | cons x text =>
      have head : x = d.quote := (List.cons.inj same).1
      have regular := plain x List.mem_cons_self
      simp [head, Dialect.special] at regular
  cases first with
  | nonEscaped plain =>
    cases second with
    | nonEscaped plain' => exact plain_unique plain plain' same stops stops'
    | escaped content' => exact absurd same (mixed plain stops)
  | escaped content =>
    cases second with
    | nonEscaped plain' => exact absurd same.symm (mixed plain' stops')
    | escaped content' =>
      simp only [Dialect.quoted, List.cons_append, List.append_assoc, List.cons.injEq,
        true_and] at same
      exact quoted_unique same stops stops'

/-- What follows a record is the end or a line break. -/
def Ends (d : Dialect α) (rest : List α) : Prop := ∀ x ∈ rest.head?, x = d.cr

omit [DecidableEq α] in
private theorem Dialect.apart (d : Dialect α) :
    d.comma ≠ d.quote ∧ d.cr ≠ d.quote ∧ d.comma ≠ d.cr := by
  have distinct := d.distinct
  simp only [List.nodup_cons, List.mem_cons, not_or] at distinct
  exact ⟨Ne.symm distinct.1.1, Ne.symm distinct.1.2.1, distinct.2.1.1⟩

private theorem Ends.stops {rest : List α} (ends : Ends d rest) : Stops d rest := by
  intro x head
  obtain rfl := ends x head
  exact ⟨d.apart.2.1, by simp [Dialect.special]⟩

private theorem stops_comma (rest : List α) : Stops d (d.comma :: rest) := by
  intro x head
  obtain rfl : d.comma = x := by simpa using head
  exact ⟨d.apart.1, by simp [Dialect.special]⟩

omit [DecidableEq α] in
private theorem not_ends_comma {rest : List α} : ¬ Ends d (d.comma :: rest) :=
  fun ends => d.apart.2.2 (ends d.comma rfl)

theorem Record.unique {s t rest rest' : List α} {record record' : List (List α)}
    (first : Record d s record) (second : Record d t record') (same : s ++ rest = t ++ rest')
    (ends : Ends d rest) (ends' : Ends d rest') : record = record' ∧ rest = rest' := by
  induction first generalizing t record' with
  | single field =>
    cases second with
    | single field' =>
      obtain ⟨rfl, rests⟩ := field.unique field' same ends.stops ends'.stops
      exact ⟨rfl, rests⟩
    | more field' later =>
      rw [List.append_assoc, List.cons_append] at same
      obtain ⟨-, rfl⟩ := field.unique field' same ends.stops (stops_comma _)
      exact absurd ends not_ends_comma
  | more field later ih =>
    rw [List.append_assoc, List.cons_append] at same
    cases second with
    | single field' =>
      obtain ⟨-, rfl⟩ := field.unique field' same (stops_comma _) ends'.stops
      exact absurd ends' not_ends_comma
    | more field' later' =>
      rw [List.append_assoc, List.cons_append] at same
      obtain ⟨rfl, rests⟩ := field.unique field' same (stops_comma _) (stops_comma _)
      obtain ⟨rfl, ended⟩ := ih later' (List.cons.inj rests).2
      exact ⟨rfl, ended⟩

omit [DecidableEq α] in
private theorem ends_nil : Ends d [] := by
  simp [Ends]

omit [DecidableEq α] in
private theorem ends_cr (rest : List α) : Ends d (d.cr :: rest) := by
  simp [Ends]

theorem File.ne_nil {s : List α} {records : List (List (List α))} (file : File d s records) :
    s ≠ [] := by
  cases file <;> simp_all

/-- What may follow the first record, and the records in it. -/
private inductive After (d : Dialect α) : List α → List (List (List α)) → Prop where
  | nothing : After d [] []
  | lineBreak : After d [d.cr, d.lf] []
  | more {t : List α} {records : List (List (List α))} (rest : File d t records) :
      After d (d.cr :: d.lf :: t) records

private theorem After.ends {tail : List α} {rest : List (List (List α))}
    (after : After d tail rest) : Ends d tail := by
  cases after with
  | nothing => exact ends_nil
  | lineBreak => exact ends_cr _
  | more => exact ends_cr _

private theorem File.split {s : List α} {records : List (List (List α))}
    (file : File d s records) : ∃ line tail record rest, s = line ++ tail ∧
      records = record :: rest ∧ Record d line record ∧ After d tail rest := by
  cases file with
  | @unended s record only text =>
    exact ⟨s, [], record, [], (List.append_nil s).symm, rfl, only, .nothing⟩
  | @ended s record only => exact ⟨s, _, record, [], rfl, rfl, only, .lineBreak⟩
  | @more s t record records first rest =>
    exact ⟨s, _, record, records, rfl, rfl, first, .more rest⟩

/-- A text has at most one reading. -/
theorem File.unique {s : List α} {records records' : List (List (List α))}
    (first : File d s records) (second : File d s records') : records = records' := by
  induction first generalizing records' with
  | @unended s record only text =>
    obtain ⟨line, tail, record', rest, same, rfl, only', after⟩ := second.split
    rw [← List.append_nil s] at same
    obtain ⟨rfl, rfl⟩ := only.unique only' same ends_nil after.ends
    cases after
    rfl
  | ended only =>
    obtain ⟨line, tail, record', rest, same, rfl, only', after⟩ := second.split
    obtain ⟨rfl, rfl⟩ := only.unique only' same (ends_cr _) after.ends
    cases after with
    | lineBreak => rfl
    | more rest => exact absurd rfl rest.ne_nil
  | more only rest ih =>
    obtain ⟨line, tail, record', rest', same, rfl, only', after⟩ := second.split
    obtain ⟨rfl, rfl⟩ := only.unique only' same (ends_cr _) after.ends
    cases after with
    | lineBreak => exact absurd rfl rest.ne_nil
    | more later => rw [ih later]

end Unique

end Csv
