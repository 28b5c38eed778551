import Mathlib.Data.List.Nodup
import Mathlib.Data.List.Pairwise
import Mathlib.Data.List.Perm.Basic
import Mathlib.Order.Lattice

/-!
# Pages behind a cursor

A list is read page by page: a query returns at most one row more than the page holds, in
descending order of a sort key, and the next query starts behind the last row of the page. The
database is free to return rows of the same key in any order, and in another order each time.

`lossless_iff` says when no row is lost: sort key and cursor filter must agree on any two rows, and
neither may leave the two undecided.
-/
namespace Paging

variable {ι ρ κ : Type} [LinearOrder κ]

structure Page (ι ρ : Type) where
  items : List ρ
  nextCursor : Option ι

/-- The page out of the entries of a query that took one row more. -/
def cut (ident : ρ → ι) (limit : Nat) (entries : List ρ) : Page ι ρ :=
  if limit < entries.length then
    { items := entries.take limit, nextCursor := (entries.take limit).getLast?.map ident }
  else { items := entries, nextCursor := none }

/-- Reads on until a page has no next cursor; `none` if a read fails or the fuel is spent. -/
def follow (read : Option ι → Option (Page ι ρ)) : Nat → Option ι → Option (List ρ)
  | 0, _ => none
  | fuel + 1, cursor => do
    let page ← read cursor
    match page.nextCursor with
    | none => some page.items
    | some next => (follow read fuel (some next)).map (page.items ++ ·)

/-- In the order of `ORDER BY key DESC`. -/
def Descending (key : ρ → κ) (rows : List ρ) : Prop :=
  rows.Pairwise fun row next => key next ≤ key row

/-- How a database orders the rows of each query, known by its cursor. -/
def Arranges (key : ρ → κ) (arrange : Option ι → List ρ → List ρ) : Prop :=
  ∀ cursor rows, (arrange cursor rows).Perm rows ∧ Descending key (arrange cursor rows)

/-- The rows a query with this cursor selects. -/
def select (beyond : ρ → ρ → Bool) (rows : List ρ) : Option ρ → List ρ
  | none => rows
  | some cursor => rows.filter (beyond cursor)

/-- `read` answers the first query and those behind a row of the list. -/
def Serves (ident : ρ → ι) (beyond : ρ → ρ → Bool) (rows : List ρ) (limit : Nat)
    (arrange : Option ι → List ρ → List ρ) (read : Option ι → Option (Page ι ρ)) : Prop :=
  ∀ cursor : Option ρ, (∀ row ∈ cursor, row ∈ rows) → read (cursor.map ident) =
    some (cut ident limit ((arrange (cursor.map ident) (select beyond rows cursor)).take (limit + 1)))

/-- Following the cursors ends, and yields every row exactly once, in order. -/
def Complete (key : ρ → κ) (rows : List ρ) (read : Option ι → Option (Page ι ρ)) : Prop :=
  ∃ fuel out, follow read fuel none = some out ∧ out.Perm rows ∧ Descending key out

/-- Sort key and cursor filter put two rows in the same order. -/
def Agree (key : ρ → κ) (beyond : ρ → ρ → Bool) (a b : ρ) : Prop :=
  (key b < key a ∧ beyond a b) ∨ (key a < key b ∧ beyond b a)

/-- A cursor filter that is a strict order: no row is beyond itself. -/
structure Strict (beyond : ρ → ρ → Bool) : Prop where
  irrefl : ∀ a, beyond a a = false
  trans : ∀ {a b c}, beyond a b → beyond b c → beyond a c

@[simp] theorem cut_take (ident : ρ → ι) (limit : Nat) (entries : List ρ) :
    cut ident limit (entries.take (limit + 1)) = cut ident limit entries := by
  by_cases more : limit < entries.length
  · have longer : limit < (entries.take (limit + 1)).length := by
      rw [List.length_take]
      omega
    rw [cut, cut, if_pos longer, if_pos more, List.take_take, Nat.min_eq_left (by omega)]
  · have whole : entries.take (limit + 1) = entries := List.take_of_length_le (by omega)
    rw [whole]

private theorem follow_last {read : Option ι → Option (Page ι ρ)} {cursor : Option ι}
    {items : List ρ} (reads : read cursor = some { items, nextCursor := none }) (fuel : Nat) :
    follow read (fuel + 1) cursor = some items := by
  simp [follow, reads]

private theorem follow_more {read : Option ι → Option (Page ι ρ)} {cursor : Option ι}
    {items : List ρ} {next : ι} (reads : read cursor = some { items, nextCursor := some next })
    (fuel : Nat) :
    follow read (fuel + 1) cursor = (follow read fuel (some next)).map (items ++ ·) := by
  simp [follow, reads]

/-- A page that is not the last one has a last row. -/
private theorem take_concat {entries : List ρ} {limit : Nat} (positive : 1 ≤ limit)
    (more : limit < entries.length) : ∃ page last, entries.take limit = page ++ [last] ∧
      entries = page ++ [last] ++ entries.drop limit := by
  rcases List.eq_nil_or_concat (entries.take limit) with empty | ⟨page, last, paged⟩
  · have size := congrArg List.length empty
    simp only [List.length_take, List.length_nil] at size
    omega
  · rw [List.concat_eq_append] at paged
    exact ⟨page, last, paged, by rw [← paged, List.take_append_drop]⟩

/-! ### When nothing is lost -/

section Sufficient

variable {ident : ρ → ι} {key : ρ → κ} {beyond : ρ → ρ → Bool} {rows : List ρ} {limit : Nat}
  {arrange : Option ι → List ρ → List ρ} {read : Option ι → Option (Page ι ρ)}

private theorem beyond_iff (strict : Strict beyond)
    (agree : ∀ a ∈ rows, ∀ b ∈ rows, a ≠ b → Agree key beyond a b) {a b : ρ} (inA : a ∈ rows)
    (inB : b ∈ rows) : beyond a b ↔ key b < key a := by
  by_cases same : a = b
  · subst same
    simp [strict.irrefl a]
  · rcases agree a inA b inB same with ⟨below, passes⟩ | ⟨above, passes⟩
    · simp [below, passes]
    · constructor
      · intro other
        have cycle := strict.trans other passes
        simp [strict.irrefl a] at cycle
      · intro below
        exact absurd below (not_lt.mpr (le_of_lt above))

private theorem mem_select {cursor : Option ρ} {row : ρ} :
    row ∈ select beyond rows cursor ↔ row ∈ rows ∧ ∀ c ∈ cursor, beyond c row := by
  cases cursor with
  | none => simp [select]
  | some c => simp [select]

private theorem nodup_select (distinct : rows.Nodup) (cursor : Option ρ) :
    (select beyond rows cursor).Nodup := by
  cases cursor with
  | none => exact distinct
  | some c => exact distinct.filter _

variable (strict : Strict beyond) (distinct : rows.Nodup)
  (agree : ∀ a ∈ rows, ∀ b ∈ rows, a ≠ b → Agree key beyond a b)
include strict distinct agree

private theorem rest_perm {cursor : Option ρ} {page rest : List ρ} {last : ρ}
    (all : (page ++ [last] ++ rest).Perm (select beyond rows cursor))
    (sorted : Descending key (page ++ [last] ++ rest)) :
    rest.Perm (select beyond rows (some last)) := by
  have apart : (page ++ [last] ++ rest).Nodup := all.nodup_iff.mpr (nodup_select distinct cursor)
  have members : ∀ row ∈ page ++ [last] ++ rest, row ∈ rows ∧ ∀ c ∈ cursor, beyond c row :=
    fun row member => mem_select.mp (all.mem_iff.mp member)
  obtain ⟨inLast, lastBeyond⟩ := members last (by simp)
  have inOrder := List.pairwise_append.mp sorted
  rw [List.perm_ext_iff_of_nodup (List.nodup_append.mp apart).2.1 (nodup_select distinct _)]
  intro row
  rw [mem_select]
  constructor
  · intro member
    have inRow := (members row (List.mem_append_right _ member)).1
    have differs : last ≠ row := (List.nodup_append.mp apart).2.2 last (by simp) row member
    have below : key row ≤ key last := inOrder.2.2 last (by simp) row member
    refine ⟨inRow, fun c found => ?_⟩
    obtain rfl : last = c := by simpa using found
    rcases agree last inLast row inRow differs with ⟨-, passes⟩ | ⟨above, -⟩
    · exact passes
    · exact absurd below (not_le.mpr above)
  · rintro ⟨inRow, passes⟩
    have behind : beyond last row := passes last rfl
    have member : row ∈ page ++ [last] ++ rest := by
      refine all.mem_iff.mpr (mem_select.mpr ⟨inRow, fun c found => ?_⟩)
      exact strict.trans (lastBeyond c found) behind
    rcases List.mem_append.mp member with early | late
    · -- A row of the page is at most as far as its last row.
      exfalso
      rcases List.mem_append.mp early with before | same
      · have above : key last ≤ key row :=
          (List.pairwise_append.mp inOrder.1).2.2 row before last (by simp)
        exact absurd ((beyond_iff strict agree inLast inRow).mp behind) (not_lt.mpr above)
      · obtain rfl : row = last := by simpa using same
        simp [strict.irrefl row] at behind
    · exact late

private theorem follow_select (positive : 1 ≤ limit) (arranges : Arranges key arrange)
    (serves : Serves ident beyond rows limit arrange read) (n : Nat) (cursor : Option ρ)
    (inside : ∀ row ∈ cursor, row ∈ rows) (bound : (select beyond rows cursor).length ≤ n) :
    ∃ out, follow read (n + 1) (cursor.map ident) = some out ∧
      out.Perm (select beyond rows cursor) ∧ Descending key out := by
  induction n generalizing cursor with
  | zero =>
    obtain ⟨all, sorted⟩ := arranges (cursor.map ident) (select beyond rows cursor)
    have answer := serves cursor inside
    have short : ¬limit < (arrange (cursor.map ident) (select beyond rows cursor)).length := by
      rw [all.length_eq]
      omega
    rw [cut_take, cut, if_neg short] at answer
    exact ⟨_, follow_last answer 0, all, sorted⟩
  | succ n ih =>
    obtain ⟨all, sorted⟩ := arranges (cursor.map ident) (select beyond rows cursor)
    have answer := serves cursor inside
    rw [cut_take, cut] at answer
    generalize arrange (cursor.map ident) (select beyond rows cursor) = entries at *
    split at answer
    next more =>
      obtain ⟨page, last, paged, whole⟩ := take_concat positive more
      rw [whole] at all sorted
      have rest := rest_perm strict distinct agree all sorted
      have inLast : last ∈ rows := (mem_select.mp (all.mem_iff.mp (by simp))).1
      have fewer : (select beyond rows (some last)).length ≤ n := by
        have sizes := all.length_eq
        rw [← rest.length_eq]
        simp only [List.length_append, List.length_cons, List.length_nil] at sizes
        omega
      obtain ⟨out, reads, outAll, outSorted⟩ := ih (some last) (by simpa using inLast) fewer
      have outRest : out.Perm (entries.drop limit) := outAll.trans rest.symm
      refine ⟨page ++ [last] ++ out, ?_, (outRest.append_left _).trans all, ?_⟩
      · rw [paged] at answer
        simp only [List.getLast?_concat, Option.map_some] at answer
        rw [follow_more answer]
        exact congrArg (Option.map (page ++ [last] ++ ·)) reads
      · obtain ⟨pageSorted, -, across⟩ := List.pairwise_append.mp sorted
        refine List.pairwise_append.mpr ⟨pageSorted, outSorted, fun row early next late => ?_⟩
        exact across row early next (outRest.mem_iff.mp late)
    next short => exact ⟨entries, follow_last answer _, all, sorted⟩

theorem complete_of_agree (positive : 1 ≤ limit) (arranges : Arranges key arrange)
    (serves : Serves ident beyond rows limit arrange read) : Complete key rows read := by
  obtain ⟨out, reads, all, sorted⟩ :=
    follow_select strict distinct agree positive arranges serves rows.length none (by simp) (Nat.le_refl _)
  exact ⟨_, out, reads, all, sorted⟩

end Sufficient

/-! ### When something is lost -/

section Necessary

variable [DecidableEq ρ] {ident : ρ → ι} {key : ρ → κ} {beyond : ρ → ρ → Bool} {rows : List ρ}
  {read : Option ι → Option (Page ι ρ)}

/-- Descending keys, and `first` ahead of the other rows of its key. -/
private def ahead (key : ρ → κ) (first a b : ρ) : Bool :=
  decide (key b < key a ∨ key a = key b ∧ (a = first ∨ b ≠ first))

private theorem ahead_trans (first a b c : ρ) (left : ahead key first a b)
    (right : ahead key first b c) : ahead key first a c := by
  simp only [ahead, decide_eq_true_eq] at *
  rcases left with left | ⟨left, rankA⟩ <;> rcases right with right | ⟨right, rankB⟩
  · exact .inl (lt_trans right left)
  · exact .inl (right ▸ left)
  · exact .inl (left ▸ right)
  · refine .inr ⟨left.trans right, ?_⟩
    rcases rankA with rankA | rankA
    · exact .inl rankA
    · rcases rankB with rankB | rankB
      · exact absurd rankB rankA
      · exact .inr rankB

private theorem ahead_total (first a b : ρ) : ahead key first a b || ahead key first b a := by
  simp only [ahead, Bool.or_eq_true, decide_eq_true_eq]
  rcases lt_trichotomy (key a) (key b) with below | same | above
  · exact .inr (.inl below)
  · by_cases isFirst : a = first
    · exact .inl (.inr ⟨same, .inl isFirst⟩)
    · exact .inr (.inr ⟨same.symm, .inr isFirst⟩)
  · exact .inl (.inl above)

private theorem key_le_of_ahead {first a b : ρ} (before : ahead key first a b) :
    key b ≤ key a := by
  simp only [ahead, decide_eq_true_eq] at before
  rcases before with below | ⟨same, -⟩
  · exact le_of_lt below
  · exact le_of_eq same.symm

/-- A database that returns `first` ahead of its ties. -/
private def favour (key : ρ → κ) (first : ρ) (_ : Option ι) (rows : List ρ) : List ρ :=
  rows.mergeSort (ahead key first)

private theorem favour_sorted (first : ρ) (cursor : Option ι) (rows : List ρ) :
    (favour key first cursor rows).Pairwise fun a b => ahead key first a b :=
  List.pairwise_mergeSort (ahead_trans first) (ahead_total first) rows

private theorem favour_perm (first : ρ) (cursor : Option ι) (rows : List ρ) :
    (favour key first cursor rows).Perm rows :=
  List.mergeSort_perm _ _

private theorem favour_arranges (key : ρ → κ) (first : ρ) :
    Arranges key (favour key first : Option ι → List ρ → List ρ) :=
  fun cursor rows => ⟨favour_perm first cursor rows,
    (favour_sorted first cursor rows).imp key_le_of_ahead⟩

private theorem follow_ordered (strict : Strict beyond) {first : ρ}
    (serves : Serves ident beyond rows 1 (favour key first) read) (fuel : Nat)
    (cursor : Option ρ) (inside : ∀ row ∈ cursor, row ∈ rows) {out : List ρ}
    (reads : follow read fuel (cursor.map ident) = some out) :
    (out.Pairwise fun a b => beyond a b ∧ ahead key first a b) ∧
      ∀ row ∈ out, row ∈ select beyond rows cursor := by
  induction fuel generalizing cursor out with
  | zero => simp [follow] at reads
  | succ fuel ih =>
    have all : (favour key first (cursor.map ident) (select beyond rows cursor)).Perm _ :=
      favour_perm first _ _
    have sorted : (favour key first (cursor.map ident) (select beyond rows cursor)).Pairwise _ :=
      favour_sorted first _ _
    have answer := serves cursor inside
    rw [cut_take, cut] at answer
    generalize favour key first (cursor.map ident) (select beyond rows cursor) = entries at *
    match entries, all, sorted, answer with
    | [], all, sorted, answer =>
      rw [follow_last answer, Option.some.injEq] at reads
      subst reads
      simp
    | [only], all, sorted, answer =>
      rw [follow_last answer, Option.some.injEq] at reads
      subst reads
      exact ⟨List.pairwise_singleton _ _, fun row member => all.mem_iff.mp member⟩
    | head :: second :: tail, all, sorted, answer =>
      rw [follow_more answer] at reads
      obtain ⟨later, onward, rfl⟩ := Option.map_eq_some_iff.mp reads
      have inHead := mem_select.mp (all.mem_iff.mp List.mem_cons_self)
      obtain ⟨ordered, selected⟩ := ih (some head) (by simpa using inHead.1) onward
      have behind : ∀ row ∈ later, row ∈ rows ∧ beyond head row := by
        intro row member
        have found := mem_select.mp (selected row member)
        exact ⟨found.1, found.2 head rfl⟩
      have within : ∀ row ∈ later, row ∈ select beyond rows cursor := by
        intro row member
        refine mem_select.mpr ⟨(behind row member).1, fun c found => ?_⟩
        exact strict.trans (inHead.2 c found) (behind row member).2
      constructor
      · refine List.pairwise_cons.mpr ⟨fun row member => ⟨(behind row member).2, ?_⟩, ordered⟩
        rcases List.mem_cons.mp (all.mem_iff.mpr (within row member)) with same | listed
        · have loop := (behind row member).2
          rw [same, strict.irrefl head] at loop
          exact absurd loop (by simp)
        · exact List.rel_of_pairwise_cons sorted listed
      · intro row member
        rcases List.mem_cons.mp member with rfl | member
        · exact all.mem_iff.mp List.mem_cons_self
        · exact within row member

private theorem ordered_of_complete (strict : Strict beyond) {first : ρ}
    (serves : Serves ident beyond rows 1 (favour key first) read)
    (complete : Complete key rows read) {a b : ρ} (inA : a ∈ rows) (inB : b ∈ rows)
    (differ : a ≠ b) :
    (beyond a b ∧ ahead key first a b) ∨ (beyond b a ∧ ahead key first b a) := by
  obtain ⟨fuel, out, reads, all, -⟩ := complete
  have ordered := (follow_ordered strict serves fuel none (by simp) reads).1
  let either : ρ → ρ → Prop := fun a b =>
    (beyond a b ∧ ahead key first a b) ∨ (beyond b a ∧ ahead key first b a)
  have symmetric : Std.Symm either := ⟨fun _ _ => Or.symm⟩
  have decided : out.Pairwise either := ordered.imp .inl
  exact decided.forall (all.mem_iff.mpr inA) (all.mem_iff.mpr inB) differ

end Necessary

/-- Nothing is lost, whatever the page size and however ties are returned, exactly if sort key and
cursor filter agree on any two rows. -/
theorem lossless_iff [DecidableEq ρ] {ident : ρ → ι} (key : ρ → κ) {beyond : ρ → ρ → Bool}
    {rows : List ρ} {read : (Option ι → List ρ → List ρ) → Nat → Option ι → Option (Page ι ρ)}
    (strict : Strict beyond) (distinct : rows.Nodup)
    (serves : ∀ arrange limit, Serves ident beyond rows limit arrange (read arrange limit)) :
    (∀ arrange, Arranges key arrange → ∀ limit ≥ 1, Complete key rows (read arrange limit)) ↔
      ∀ a ∈ rows, ∀ b ∈ rows, a ≠ b → Agree key beyond a b := by
  constructor
  · intro lossless a inA b inB differ
    have decided := fun first => ordered_of_complete strict (serves (favour key first) 1)
      (lossless _ (favour_arranges key first) 1 (Nat.le_refl _)) inA inB differ
    rcases lt_trichotomy (key a) (key b) with below | same | above
    · rcases decided a with ⟨-, before⟩ | ⟨passes, -⟩
      · exact absurd (key_le_of_ahead before) (not_le.mpr below)
      · exact .inr ⟨below, passes⟩
    · -- Returning `a` first needs `b` beyond `a`; returning `b` first, the reverse.
      exfalso
      have ofA : beyond a b := by
        rcases decided a with ⟨passes, -⟩ | ⟨-, before⟩
        · exact passes
        · exact absurd before (by simp [ahead, same, differ.symm])
      have ofB : beyond b a := by
        rcases decided b with ⟨-, before⟩ | ⟨passes, -⟩
        · exact absurd before (by simp [ahead, same, differ])
        · exact passes
      have loop := strict.trans ofA ofB
      simp [strict.irrefl a] at loop
    · rcases decided a with ⟨passes, -⟩ | ⟨-, before⟩
      · exact .inl ⟨above, passes⟩
      · exact absurd (key_le_of_ahead before) (not_le.mpr above)
  · intro agree arrange arranges limit positive
    exact complete_of_agree strict distinct agree positive arranges (serves arrange limit)

/-! ### Cursors that are sort keys

A page may hand out the sort key of its last row instead of the row, and the next query then
selects what lies strictly below that key. Rows of one key that do not fit on one page are lost, so
everything depends on where the pages end. -/

section Keys

/-- The pages from a cursor on, up to the first that has no next cursor. -/
def walk (read : Option ι → Page ι ρ) : Nat → Option ι → Option (List (Page ι ρ))
  | 0, _ => none
  | fuel + 1, cursor =>
    match (read cursor).nextCursor with
    | none => some [read cursor]
    | some next => (walk read fuel (some next)).map (read cursor :: ·)

def rowsOf (pages : List (Page ι ρ)) : List ρ := pages.flatMap (·.items)

/-- The pages hold every row exactly once and in order, and a page has a next cursor exactly if
there is a row that is neither on it nor on an earlier one. -/
structure Exhausts (key : ρ → κ) (rows : List ρ) (pages : List (Page ι ρ)) : Prop where
  all : (rowsOf pages).Perm rows
  sorted : Descending key (rowsOf pages)
  cursors : ∀ before page after, pages = before ++ page :: after →
    (page.nextCursor.isSome ↔ ∃ row ∈ rows, row ∉ rowsOf (before ++ [page]))

/-- The rows of one key all fall on the same page of `limit` rows. -/
def TiesTogether (key : ρ → κ) (limit : Nat) (rows : List ρ) : Prop :=
  ∀ row ∈ rows, rows.countP (fun other => decide (key row < key other)) / limit =
    (rows.countP (fun other => decide (key row ≤ key other)) - 1) / limit

instance (key : ρ → κ) (limit : Nat) (rows : List ρ) : Decidable (TiesTogether key limit rows) :=
  inferInstanceAs (Decidable (∀ row ∈ rows, _))

/-- The rows behind a cursor. -/
def below (key : ρ → κ) (rows : List ρ) : Option κ → List ρ
  | none => rows
  | some cursor => rows.filter fun row => key row < cursor

/-- `read` answers each query with a page of the rows below its cursor. -/
def ServesKeys (key : ρ → κ) (rows : List ρ) (limit : Nat)
    (arrange : Option κ → List ρ → List ρ) (read : Option κ → Page κ ρ) : Prop :=
  ∀ cursor, read cursor =
    cut key limit ((arrange cursor (below key rows cursor)).take (limit + 1))

variable {key : ρ → κ} {rows : List ρ} {limit : Nat}

@[simp] theorem rowsOf_nil : rowsOf ([] : List (Page ι ρ)) = [] := rfl

@[simp] theorem rowsOf_cons (page : Page ι ρ) (pages : List (Page ι ρ)) :
    rowsOf (page :: pages) = page.items ++ rowsOf pages := rfl

@[simp] theorem rowsOf_append (before after : List (Page ι ρ)) :
    rowsOf (before ++ after) = rowsOf before ++ rowsOf after := by
  simp [rowsOf]

theorem walk_unique {read : Option ι → Page ι ρ} {fuel more : Nat} {cursor : Option ι}
    {pages others : List (Page ι ρ)} (reads : walk read fuel cursor = some pages)
    (again : walk read more cursor = some others) : pages = others := by
  induction fuel generalizing more cursor pages others with
  | zero => simp [walk] at reads
  | succ fuel ih =>
    cases more with
    | zero => simp [walk] at again
    | succ more =>
      cases last : (read cursor).nextCursor with
      | none =>
        simp only [walk, last, Option.some.injEq] at reads again
        exact reads.symm.trans again
      | some next =>
        simp only [walk, last, Option.map_eq_some_iff] at reads again
        obtain ⟨rest, restReads, rfl⟩ := reads
        obtain ⟨rest', restAgain, rfl⟩ := again
        rw [ih restReads restAgain]

theorem TiesTogether.perm {others : List ρ} (same : rows.Perm others)
    (together : TiesTogether key limit rows) : TiesTogether key limit others := by
  intro row member
  rw [← same.countP_eq, ← same.countP_eq]
  exact together row (same.mem_iff.mpr member)

theorem tiesTogether_of_short (short : rows.length ≤ limit) : TiesTogether key limit rows := by
  intro row member
  have weak : rows.countP (fun other => decide (key row ≤ key other)) ≤ rows.length :=
    List.countP_le_length
  have strict : rows.countP (fun other => decide (key row < key other)) < rows.length := by
    refine Nat.lt_of_le_of_ne List.countP_le_length fun all => ?_
    have self := of_decide_eq_true (List.countP_eq_length.mp all row member)
    exact lt_irrefl _ self
  rw [Nat.div_eq_of_lt (by omega), Nat.div_eq_of_lt (by omega)]

/-- Ties stay together exactly if none crosses the edge of the first page and those behind it stay
together. -/
theorem tiesTogether_append {page rest : List ρ} {last : ρ}
    (sorted : Descending key (page ++ [last] ++ rest)) (full : (page ++ [last]).length = limit) :
    TiesTogether key limit (page ++ [last] ++ rest) ↔
      (∀ row ∈ rest, key row < key last) ∧ TiesTogether key limit rest := by
  obtain ⟨pageSorted, -, across⟩ := List.pairwise_append.mp sorted
  have least : ∀ row ∈ page ++ [last], key last ≤ key row := by
    intro row member
    rcases List.mem_append.mp member with before | same
    · exact (List.pairwise_append.mp pageSorted).2.2 row before last (by simp)
    · exact le_of_eq (congrArg key (List.mem_singleton.mp same).symm)
  have positive : 0 < limit := by
    rw [← full, List.length_append]
    simp
  -- Behind the edge both counts grow by the rows of the page.
  have behind : (∀ row ∈ rest, key row < key last) → ∀ row ∈ rest,
      (page ++ [last] ++ rest).countP (fun other => decide (key row < key other)) =
          limit + rest.countP (fun other => decide (key row < key other)) ∧
        (page ++ [last] ++ rest).countP (fun other => decide (key row ≤ key other)) =
          limit + rest.countP (fun other => decide (key row ≤ key other)) := by
    intro edge row member
    have above : ∀ other ∈ page ++ [last], key row < key other :=
      fun other inPage => lt_of_lt_of_le (edge row member) (least other inPage)
    constructor
    · rw [List.countP_append, ← full, List.countP_eq_length.mpr]
      exact fun other inPage => decide_eq_true (above other inPage)
    · rw [List.countP_append, ← full, List.countP_eq_length.mpr]
      exact fun other inPage => decide_eq_true (le_of_lt (above other inPage))
  have shift : (∀ row ∈ rest, key row < key last) → ∀ row ∈ rest,
      ((page ++ [last] ++ rest).countP (fun other => decide (key row < key other)) / limit =
          ((page ++ [last] ++ rest).countP (fun other => decide (key row ≤ key other)) - 1) / limit ↔
        rest.countP (fun other => decide (key row < key other)) / limit =
          (rest.countP (fun other => decide (key row ≤ key other)) - 1) / limit) := by
    intro edge row member
    obtain ⟨strict, weak⟩ := behind edge row member
    have one : 0 < rest.countP (fun other => decide (key row ≤ key other)) :=
      List.countP_pos_iff.mpr ⟨row, member, by simp⟩
    rw [strict, weak, Nat.add_sub_assoc one, Nat.add_div_left _ positive,
      Nat.add_div_left _ positive, Nat.succ_inj]
  constructor
  · intro together
    have edge : ∀ row ∈ rest, key row < key last := by
      have atLast := together last (by simp)
      -- Fewer than `limit` rows lie above the last one, so at most `limit` are level with it.
      have few : (page ++ [last] ++ rest).countP (fun other => decide (key last < key other)) <
          limit := by
        have none : rest.countP (fun other => decide (key last < key other)) = 0 := by
          refine List.countP_eq_zero.mpr fun row member => ?_
          simpa using across last (by simp) row member
        have some : (page ++ [last]).countP (fun other => decide (key last < key other)) ≤
            page.length := by
          have bound : page.countP (fun other => decide (key last < key other)) ≤ page.length :=
            List.countP_le_length
          rw [List.countP_append, List.countP_singleton, if_neg (by simp)]
          exact bound
        rw [List.countP_append, none]
        rw [List.length_append, List.length_singleton] at full
        omega
      rw [Nat.div_eq_of_lt few] at atLast
      have level := (Nat.div_eq_zero_iff_lt positive).mp atLast.symm
      have page' : (page ++ [last]).countP (fun other => decide (key last ≤ key other)) = limit := by
        rw [← full, List.countP_eq_length]
        exact fun row member => decide_eq_true (least row member)
      rw [List.countP_append, page'] at level
      have none : rest.countP (fun other => decide (key last ≤ key other)) = 0 := by omega
      intro row member
      have above := List.countP_eq_zero.mp none row member
      simpa using above
    exact ⟨edge, fun row member => (shift edge row member).mp (together row (by simp [member]))⟩
  · rintro ⟨edge, together⟩ row member
    rcases List.mem_append.mp member with inPage | inRest
    · have lower : key last ≤ key row := least row inPage
      have none : ∀ other ∈ rest, ¬key row ≤ key other :=
        fun other inRest => not_le.mpr (lt_of_lt_of_le (edge other inRest) lower)
      have weak : (page ++ [last] ++ rest).countP (fun other => decide (key row ≤ key other)) ≤
          limit := by
        have zero : rest.countP (fun other => decide (key row ≤ key other)) = 0 :=
          List.countP_eq_zero.mpr fun other inRest => by simpa using none other inRest
        rw [List.countP_append, zero, ← full]
        exact List.countP_le_length
      have fewer : (page ++ [last] ++ rest).countP (fun other => decide (key row < key other)) <
          (page ++ [last] ++ rest).countP (fun other => decide (key row ≤ key other)) := by
        obtain ⟨front, back, split⟩ := List.append_of_mem member
        rw [split]
        simp only [List.countP_append, List.countP_cons, lt_irrefl, decide_false, le_refl,
          decide_true, Bool.false_eq_true, if_false, if_true]
        have imp : ∀ l : List ρ, l.countP (fun other => decide (key row < key other)) ≤
            l.countP (fun other => decide (key row ≤ key other)) := fun l =>
          List.countP_mono_left fun other _ strict => by
            simpa using le_of_lt (of_decide_eq_true strict)
        have first := imp front
        have second := imp back
        omega
      rw [Nat.div_eq_of_lt (by omega), Nat.div_eq_of_lt (by omega)]
    · exact (shift edge row inRest).mpr (together row inRest)

private theorem nodup_below (distinct : rows.Nodup) (cursor : Option κ) :
    (below key rows cursor).Nodup := by
  cases cursor with
  | none => exact distinct
  | some cursor => exact distinct.filter _

private theorem mem_below_last {cursor : Option κ} {last row : ρ}
    (inLast : last ∈ below key rows cursor) :
    row ∈ below key rows (some (key last)) ↔ row ∈ below key rows cursor ∧ key row < key last := by
  cases cursor with
  | none => simp [below]
  | some cursor =>
    have lower : key last < cursor := by simpa using (List.mem_filter.mp inLast).2
    simp only [below, List.mem_filter, decide_eq_true_eq]
    constructor
    · exact fun found => ⟨⟨found.1, lt_trans found.2 lower⟩, found.2⟩
    · exact fun found => ⟨found.1.1, found.2⟩

private theorem rest_perm_below (distinct : rows.Nodup) {cursor : Option κ} {page rest : List ρ}
    {last : ρ} (all : (page ++ [last] ++ rest).Perm (below key rows cursor))
    (sorted : Descending key (page ++ [last] ++ rest)) (edge : ∀ row ∈ rest, key row < key last) :
    rest.Perm (below key rows (some (key last))) := by
  have apart : (page ++ [last] ++ rest).Nodup := all.nodup_iff.mpr (nodup_below distinct cursor)
  have inLast : last ∈ below key rows cursor := all.mem_iff.mp (by simp)
  obtain ⟨pageSorted, -, -⟩ := List.pairwise_append.mp sorted
  rw [List.perm_ext_iff_of_nodup (List.nodup_append.mp apart).2.1 (nodup_below distinct _)]
  intro row
  rw [mem_below_last inLast]
  constructor
  · intro member
    exact ⟨all.mem_iff.mp (List.mem_append_right _ member), edge row member⟩
  · rintro ⟨inside, lower⟩
    rcases List.mem_append.mp (all.mem_iff.mpr inside) with early | late
    · exfalso
      rcases List.mem_append.mp early with before | same
      · have above := (List.pairwise_append.mp pageSorted).2.2 row before last (by simp)
        exact absurd lower (not_lt.mpr above)
      · obtain rfl : row = last := List.mem_singleton.mp same
        exact lt_irrefl _ lower
    · exact late

private theorem exhausts_cons {selected : List ρ} {page : Page κ ρ} {rest : List ρ}
    {pages : List (Page κ ρ)} (apart : selected.Nodup) (all : (page.items ++ rest).Perm selected)
    (sorted : Descending key (page.items ++ rest)) (next : page.nextCursor.isSome = true)
    (more : rest ≠ []) : Exhausts key selected (page :: pages) ↔ Exhausts key rest pages := by
  have apart' : (page.items ++ rest).Nodup := all.nodup_iff.mpr apart
  have disjoint := (List.nodup_append.mp apart').2.2
  -- A row is missing from the pages so far exactly if it is missing behind the first one.
  have missing : ∀ before : List (Page κ ρ),
      (∃ row ∈ selected, row ∉ rowsOf (page :: before)) ↔ ∃ row ∈ rest, row ∉ rowsOf before := by
    intro before
    constructor
    · rintro ⟨row, member, absent⟩
      rw [rowsOf_cons, List.mem_append, not_or] at absent
      rcases List.mem_append.mp (all.mem_iff.mpr member) with inPage | inRest
      · exact absurd inPage absent.1
      · exact ⟨row, inRest, absent.2⟩
    · rintro ⟨row, member, absent⟩
      refine ⟨row, all.mem_iff.mp (List.mem_append_right _ member), ?_⟩
      rw [rowsOf_cons, List.mem_append, not_or]
      exact ⟨fun inPage => disjoint row inPage row member rfl, absent⟩
  obtain ⟨pageSorted, -, across⟩ := List.pairwise_append.mp sorted
  constructor
  · intro exhausts
    refine ⟨?_, ?_, ?_⟩
    · exact (List.perm_append_left_iff page.items).mp (exhausts.all.trans all.symm)
    · exact (List.pairwise_append.mp exhausts.sorted).2.1
    · rintro before last after rfl
      exact (exhausts.cursors (page :: before) last after rfl).trans (missing (before ++ [last]))
  · intro exhausts
    refine ⟨?_, ?_, ?_⟩
    · exact (exhausts.all.append_left page.items).trans all
    · refine List.pairwise_append.mpr ⟨pageSorted, exhausts.sorted, fun row early other late => ?_⟩
      exact across row early other (exhausts.all.mem_iff.mp late)
    · intro before last after split
      cases before with
      | nil =>
        obtain ⟨rfl, rfl⟩ := List.cons.inj split
        obtain ⟨row, member⟩ := List.exists_mem_of_ne_nil rest more
        simp only [next, true_iff]
        exact (missing []).mpr ⟨row, member, by simp⟩
      | cons first before =>
        obtain ⟨rfl, rfl⟩ := List.cons.inj split
        exact (exhausts.cursors before last after rfl).trans (missing (before ++ [last])).symm

private theorem exhausts_single {selected entries : List ρ} (all : entries.Perm selected)
    (sorted : Descending key entries) :
    Exhausts key selected [({ items := entries, nextCursor := none } : Page κ ρ)] where
  all := by simpa using all
  sorted := by simpa using sorted
  cursors before page after split := by
    cases before with
    | nil =>
      obtain ⟨rfl, -⟩ := List.cons.inj split
      simp [all.mem_iff]
    | cons first before => simp at split

variable {arrange : Option κ → List ρ → List ρ} {read : Option κ → Page κ ρ}

/-- The pages from a cursor on hold rows below it; they hold all of them exactly if ties stay
together. -/
private theorem walk_below (distinct : rows.Nodup) (positive : 1 ≤ limit)
    (arranges : Arranges key arrange) (serves : ServesKeys key rows limit arrange read) (n : Nat)
    (cursor : Option κ) (bound : (below key rows cursor).length ≤ n) :
    ∃ pages, walk read (n + 1) cursor = some pages ∧
      (∀ row ∈ rowsOf pages, row ∈ below key rows cursor) ∧
      (Exhausts key (below key rows cursor) pages ↔
        TiesTogether key limit (below key rows cursor)) := by
  induction n generalizing cursor with
  | zero =>
    obtain ⟨all, sorted⟩ := arranges cursor (below key rows cursor)
    have short : ¬limit < (arrange cursor (below key rows cursor)).length := by
      rw [all.length_eq]
      omega
    have answer := serves cursor
    rw [cut_take, cut, if_neg short] at answer
    refine ⟨[read cursor], by simp [walk, answer], fun row member => ?_, ?_⟩
    · rw [answer] at member
      exact all.mem_iff.mp (by simpa using member)
    · rw [answer]
      exact iff_of_true (exhausts_single all sorted) (tiesTogether_of_short (by omega))
  | succ n ih =>
    obtain ⟨all, sorted⟩ := arranges cursor (below key rows cursor)
    have answer := serves cursor
    rw [cut_take, cut] at answer
    generalize arrange cursor (below key rows cursor) = entries at *
    split at answer
    next more =>
      obtain ⟨page, last, paged, whole⟩ := take_concat positive more
      have full : (page ++ [last]).length = limit := by
        rw [← paged, List.length_take]
        omega
      have left : entries.drop limit ≠ [] := by
        intro none
        have size := congrArg List.length none
        simp only [List.length_drop, List.length_nil] at size
        omega
      generalize entries.drop limit = rest at *
      subst whole
      have inLast : last ∈ below key rows cursor := all.mem_iff.mp (by simp)
      rw [paged, List.getLast?_concat, Option.map_some] at answer
      have fewer : (below key rows (some (key last))).length ≤ n := by
        -- The last row of the page is not below its own key.
        have absent : last ∉ below key rows (some (key last)) := fun member =>
          lt_irrefl _ ((mem_below_last inLast).mp member).2
        have inside : last :: below key rows (some (key last)) ⊆ below key rows cursor := by
          intro row member
          rcases List.mem_cons.mp member with rfl | later
          · exact inLast
          · exact ((mem_below_last inLast).mp later).1
        have unique := List.nodup_cons.mpr ⟨absent, nodup_below distinct _⟩
        have size := (List.subperm_of_subset unique inside).length_le
        rw [List.length_cons] at size
        omega
      obtain ⟨pages, reads, within, exhausts⟩ := ih (some (key last)) fewer
      refine ⟨read cursor :: pages, ?_, fun row member => ?_, ?_⟩
      · rw [walk, answer]
        simp [reads]
      · rw [answer, rowsOf_cons, List.mem_append] at member
        rcases member with inPage | later
        · exact all.mem_iff.mp (List.mem_append_left _ inPage)
        · exact ((mem_below_last inLast).mp (within row later)).1
      · rw [answer]
        have selected : (below key rows cursor).Nodup := nodup_below distinct cursor
        have first : Exhausts key (below key rows cursor)
            ({ items := page ++ [last], nextCursor := some (key last) } :: pages) ↔
              Exhausts key rest pages := exhausts_cons selected all sorted rfl left
        have ties : TiesTogether key limit (below key rows cursor) ↔
            (∀ row ∈ rest, key row < key last) ∧ TiesTogether key limit rest :=
          ⟨fun together => (tiesTogether_append sorted full).mp (together.perm all.symm),
            fun parts => ((tiesTogether_append sorted full).mpr parts).perm all⟩
        rw [first, ties]
        constructor
        · intro complete
          have edge : ∀ row ∈ rest, key row < key last := fun row member =>
            ((mem_below_last inLast).mp (within row (complete.all.mem_iff.mpr member))).2
          have same := rest_perm_below distinct all sorted edge
          refine ⟨edge, (exhausts.mp ?_).perm same.symm⟩
          exact ⟨complete.all.trans same, complete.sorted, fun before page after split =>
            (complete.cursors before page after split).trans
              (by simp only [same.mem_iff])⟩
        · rintro ⟨edge, together⟩
          have same := rest_perm_below distinct all sorted edge
          have complete := exhausts.mpr (together.perm same)
          exact ⟨complete.all.trans same.symm, complete.sorted, fun before page after split =>
            (complete.cursors before page after split).trans
              (by simp only [same.mem_iff])⟩
    next short =>
      refine ⟨[read cursor], by simp [walk, answer], fun row member => ?_, ?_⟩
      · rw [answer] at member
        exact all.mem_iff.mp (by simpa using member)
      · rw [answer]
        refine iff_of_true (exhausts_single all sorted) (tiesTogether_of_short ?_)
        rw [← all.length_eq]
        omega

/-- Reading from the first page on ends, and the pages read hold all the rows. -/
def Exhaustive (key : ρ → κ) (rows : List ρ) (read : Option ι → Page ι ρ) : Prop :=
  ∃ fuel pages, walk read fuel none = some pages ∧ Exhausts key rows pages

/-! Pages whose rows are handed out in another form. -/

def mapItems {ρ' : Type} (f : ρ → ρ') (page : Page ι ρ) : Page ι ρ' :=
  { items := page.items.map f, nextCursor := page.nextCursor }

variable {ρ' : Type} {f : ρ → ρ'} {key' : ρ' → κ}

theorem rowsOf_map (f : ρ → ρ') (pages : List (Page ι ρ)) :
    rowsOf (pages.map (mapItems f)) = (rowsOf pages).map f := by
  simp [rowsOf, mapItems, List.flatMap_map, List.map_flatMap]

theorem walk_map (f : ρ → ρ') (read : Option ι → Page ι ρ) (fuel : Nat) (cursor : Option ι) :
    walk (fun cursor => mapItems f (read cursor)) fuel cursor =
      (walk read fuel cursor).map (List.map (mapItems f)) := by
  induction fuel generalizing cursor with
  | zero => rfl
  | succ fuel ih =>
    cases last : (read cursor).nextCursor with
    | none => simp [walk, mapItems, last]
    | some next =>
      have same : (mapItems f (read cursor)).nextCursor = some next := last
      simp only [walk, same, last, ih, Option.map_map]
      rfl

private theorem exhausts_map_iff (distinct : rows.Nodup)
    (inj : ∀ a ∈ rows, ∀ b ∈ rows, f a = f b → a = b) (keys : ∀ row, key' (f row) = key row)
    {pages : List (Page ι ρ)} (within : ∀ row ∈ rowsOf pages, row ∈ rows) :
    Exhausts key' (rows.map f) (pages.map (mapItems f)) ↔ Exhausts key rows pages := by
  have descends : ∀ l : List ρ, Descending key' (l.map f) ↔ Descending key l := by
    intro l
    simp [Descending, List.pairwise_map, keys]
  have mapped : ∀ before : List (Page ι ρ), (∀ row ∈ rowsOf before, row ∈ rows) →
      ((∃ row ∈ rows.map f, row ∉ rowsOf (before.map (mapItems f))) ↔
        ∃ row ∈ rows, row ∉ rowsOf before) := by
    intro before inside
    rw [rowsOf_map]
    constructor
    · rintro ⟨_, member, absent⟩
      obtain ⟨row, inRows, rfl⟩ := List.mem_map.mp member
      exact ⟨row, inRows, fun read => absent (List.mem_map_of_mem read)⟩
    · rintro ⟨row, member, absent⟩
      refine ⟨f row, List.mem_map_of_mem member, fun read => absent ?_⟩
      obtain ⟨other, inOther, same⟩ := List.mem_map.mp read
      exact inj other (inside other inOther) row member same ▸ inOther
  have readInside : ∀ before page after, pages = before ++ page :: after →
      ∀ row ∈ rowsOf (before ++ [page]), row ∈ rows := by
    rintro before page after rfl row member
    refine within row ?_
    rw [rowsOf_append, List.mem_append] at member ⊢
    rcases member with early | last
    · exact .inl early
    · exact .inr (by simpa using .inl (by simpa using last))
  constructor
  · intro exhausts
    have all := exhausts.all
    rw [rowsOf_map] at all
    refine ⟨?_, (descends _).mp (rowsOf_map f pages ▸ exhausts.sorted), ?_⟩
    · -- The rows read are distinct, among the rows, and as many as they.
      have unique : (rowsOf pages).Nodup := by
        have images : (rows.map f).Nodup := (List.nodup_map_iff_inj_on distinct).mpr inj
        exact List.Nodup.of_map f (all.nodup_iff.mpr images)
      have many : rows.length ≤ (rowsOf pages).length := by
        have sizes := all.length_eq
        simp only [List.length_map] at sizes
        omega
      exact (List.subperm_of_subset unique within).perm_of_length_le many
    · intro before page after split
      subst split
      have inside := readInside before page after rfl
      have cursors := exhausts.cursors (before.map (mapItems f)) (mapItems f page)
        (after.map (mapItems f)) (by simp)
      refine cursors.trans ?_
      rw [← mapped _ inside]
      simp
  · intro exhausts
    refine ⟨?_, ?_, ?_⟩
    · rw [rowsOf_map]
      exact exhausts.all.map f
    · rw [rowsOf_map, descends]
      exact exhausts.sorted
    · intro before page after split
      obtain ⟨before, tail, rfl, rfl, tailIs⟩ := List.map_eq_append_iff.mp split
      obtain ⟨page, after, rfl, rfl, rfl⟩ := List.map_eq_cons_iff.mp tailIs
      have inside := readInside before page after rfl
      refine (exhausts.cursors before page after rfl).trans ?_
      rw [← mapped _ inside]
      simp

/-- Reading from the first page on, nothing is lost exactly if the rows of one key never fall on two
pages. The rows may be handed out in another form that tells them apart. -/
theorem exhaustive_map_iff (distinct : rows.Nodup) (positive : 1 ≤ limit)
    (arranges : Arranges key arrange) (serves : ServesKeys key rows limit arrange read)
    (inj : ∀ a ∈ rows, ∀ b ∈ rows, f a = f b → a = b) (keys : ∀ row, key' (f row) = key row) :
    Exhaustive key' (rows.map f) (fun cursor => mapItems f (read cursor)) ↔
      TiesTogether key limit rows := by
  obtain ⟨pages, reads, within, exhausts⟩ :=
    walk_below distinct positive arranges serves rows.length none (Nat.le_refl _)
  refine Iff.trans ?_ exhausts
  rw [show below key rows none = rows from rfl, ← exhausts_map_iff distinct inj keys within]
  constructor
  · rintro ⟨fuel, others, again, complete⟩
    rw [walk_map] at again
    obtain ⟨raw, rawReads, rfl⟩ := Option.map_eq_some_iff.mp again
    exact walk_unique rawReads reads ▸ complete
  · intro complete
    exact ⟨_, _, by rw [walk_map, reads, Option.map_some], complete⟩

end Keys

end Paging
