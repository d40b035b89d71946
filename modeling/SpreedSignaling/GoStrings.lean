import Mathlib.Data.List.Basic
import Mathlib.Data.List.DropRight

/-!
# Go strings: `strings.Split`, `strings.TrimSpace` and `unicode.IsSpace`

`EtcdClient.load` turns the `endpoints` option into a list with two functions of Go's standard
library, `strings.Split(s, ",")` and `strings.TrimSpace`. A Go string here is the UTF-8 text of a
configuration value, modelled as a Lean `String`, that is as its sequence of runes; byte strings
that are not valid UTF-8 are outside the model.

* `split s sep` is `strings.Split` for a one-rune separator: the fields of `s` between the
  occurrences of `sep`, in order, with `split "" sep = [""]` (Batteries' `List.splitOn`).
* `trimSpace s` is `strings.TrimSpace`, i.e. `TrimFunc(s, unicode.IsSpace)`: the leading runes
  with `isSpace` are dropped, then the trailing ones. The library's ASCII fast path computes the
  same result and is not modelled separately.
* `isSpace` is `unicode.IsSpace`.

The lemmas are the ones the endpoint parser needs: a field has no separator in it and the fields
joined by the separator give back the string (`intercalate_split`), `trimSpace` returns an infix
that neither starts nor ends with a space, and it is empty exactly for all-space strings. For the
other direction, `strings.Join(elems, sep)` is Lean's `String.intercalate sep elems`: splitting a
join of fields without the separator gives the fields back (`split_intercalate`), and
`trimSpace` leaves a string that neither starts nor ends with a space as it is.
-/

namespace SpreedSignaling

/-! ### `unicode.IsSpace` -/

/-- `unicode.IsSpace`: in Latin-1 the runes `'\t'`, `'\n'`, `'\v'`, `'\f'`, `'\r'`, `' '`, U+0085
and U+00A0; above Latin-1 the `White_Space` table, U+1680, U+2000 to U+200A, U+2028, U+2029,
U+202F, U+205F and U+3000. -/
def isSpace (r : Char) : Bool :=
  let n := r.toNat
  if n ≤ 0xFF then
    (0x09 ≤ n && n ≤ 0x0D) || n == 0x20 || n == 0x85 || n == 0xA0
  else
    n == 0x1680 || (0x2000 ≤ n && n ≤ 0x200A) || n == 0x2028 || n == 0x2029 ||
      n == 0x202F || n == 0x205F || n == 0x3000

@[simp]
theorem isSpace_comma : isSpace ',' = false := rfl

/-! ### `strings.Split` -/

/-- `strings.Split(s, sep)` for a one-rune separator `sep`: the fields of `s` between the
occurrences of `sep`, in order; the empty string has the one field `""`. -/
def split (s : String) (sep : Char) : List String :=
  (s.data.splitOn sep).map String.mk

example : split "a,,b " ',' = ["a", "", "b "] := by decide

private theorem not_mem_of_mem_splitOn {sep : Char} :
    ∀ {xs l : List Char}, l ∈ xs.splitOn sep → sep ∉ l
  | [], l, hl => by simp_all
  | a :: t, l, hl => by
    obtain ⟨f0, fs, hfs⟩ := List.exists_cons_of_ne_nil (List.splitOnP_ne_nil (· == sep) t)
    have ih := fun {l} => @not_mem_of_mem_splitOn sep t l
    simp only [List.splitOn, List.splitOnP_cons, beq_iff_eq, hfs] at hl ih
    split_ifs at hl with ha
    · rcases List.mem_cons.mp hl with rfl | hl
      · simp
      · exact ih hl
    · rcases List.mem_cons.mp hl with rfl | hl
      · simpa [Ne.symm ha] using ih (List.mem_cons_self _ _)
      · exact ih (List.mem_cons_of_mem _ hl)

/-- A field of `split s sep` has no `sep` in it. -/
theorem sep_not_mem_of_mem_split {s f : String} {sep : Char} (hf : f ∈ split s sep) :
    sep ∉ f.data := by
  obtain ⟨l, hl, rfl⟩ := List.mem_map.mp hf
  exact not_mem_of_mem_splitOn hl

/-- Joining the fields with the separator gives the string back. -/
theorem intercalate_split (s : String) (sep : Char) :
    [sep].intercalate ((split s sep).map String.data) = s.data := by
  simpa [split, Function.comp_def] using List.intercalate_splitOn s.data sep

private theorem forall_mem_splitOn_iff (sep : Char) (p : Char → Prop) :
    ∀ xs : List Char,
      (∀ f ∈ xs.splitOn sep, ∀ r ∈ f, p r) ↔ ∀ r ∈ xs, r = sep ∨ p r
  | [] => by simp
  | a :: t => by
    obtain ⟨f0, fs, hfs⟩ := List.exists_cons_of_ne_nil (List.splitOnP_ne_nil (· == sep) t)
    have ih := forall_mem_splitOn_iff sep p t
    simp only [List.splitOn, List.splitOnP_cons, beq_iff_eq, hfs, List.forall_mem_cons] at ih ⊢
    split_ifs with ha
    · simp [ha, ih]
    · simp only [List.modifyHead_cons, List.forall_mem_cons, and_assoc, ← ih]
      simp [ha]

/-- The runes of `s` are all separators or `p`-runes exactly when every field is made of
`p`-runes. -/
theorem forall_mem_split_iff (s : String) (sep : Char) (p : Char → Prop) :
    (∀ f ∈ split s sep, ∀ r ∈ f.data, p r) ↔ ∀ r ∈ s.data, r = sep ∨ p r := by
  simpa [split] using forall_mem_splitOn_iff sep p s.data

/-! ### `strings.Join` -/

private theorem data_intercalate_go (s : String) : ∀ (acc : String) (l : List String),
    (String.intercalate.go acc s l).data = acc.data ++ (l.map fun a => s.data ++ a.data).flatten
  | acc, [] => by simp [String.intercalate.go]
  | acc, a :: l => by simp [String.intercalate.go, data_intercalate_go s _ l]

private theorem intercalate_cons_eq {α : Type} (sep a : List α) :
    ∀ l : List (List α), sep.intercalate (a :: l) = a ++ (l.map (sep ++ ·)).flatten
  | [] => by simp [List.intercalate]
  | b :: l => by
    have ih := intercalate_cons_eq sep b l
    simp only [List.intercalate, List.intersperse_cons_cons, List.flatten_cons] at ih ⊢
    rw [ih]
    simp

/-- The runes of `strings.Join(elems, s)`: those of the elements with those of `s` between. -/
theorem data_intercalate (s : String) (l : List String) :
    (String.intercalate s l).data = s.data.intercalate (l.map String.data) := by
  cases l with
  | nil => rfl
  | cons a l =>
    rw [String.intercalate, data_intercalate_go, List.map_cons, intercalate_cons_eq, List.map_map]
    rfl

/-- Splitting a join of fields that have no separator in them gives the fields back. -/
theorem split_intercalate {sep : Char} {fields : List String} (hne : fields ≠ [])
    (hsep : ∀ f ∈ fields, sep ∉ f.data) :
    split (String.intercalate (String.singleton sep) fields) sep = fields := by
  rw [split, data_intercalate, String.data_singleton,
    List.splitOn_intercalate _ sep (by simpa using hsep) (by simpa using hne), List.map_map]
  exact (List.map_congr_left fun _ _ => rfl).trans (List.map_id fields)

/-! ### `strings.TrimSpace` -/

/-- `strings.TrimSpace(s)`: `s` without its leading and trailing `isSpace` runes. -/
def trimSpace (s : String) : String :=
  ⟨(s.data.dropWhile isSpace).rdropWhile isSpace⟩

example : trimSpace "\t 10.0.0.1:2379　" = "10.0.0.1:2379" := by decide

/-- `trimSpace s` is a contiguous piece of `s`. -/
theorem trimSpace_contiguous (s : String) : (trimSpace s).data <:+: s.data :=
  (List.rdropWhile_prefix _ _).isInfix.trans (List.dropWhile_suffix _).isInfix

/-- `trimSpace s` is empty exactly when every rune of `s` is a space. -/
theorem trimSpace_eq_empty_iff (s : String) : trimSpace s = "" ↔ ∀ r ∈ s.data, isSpace r := by
  rw [String.ext_iff]
  change (s.data.dropWhile isSpace).rdropWhile isSpace = [] ↔ _
  rw [List.rdropWhile_eq_nil_iff, ← List.dropWhile_eq_nil_iff, List.dropWhile_idempotent,
    List.dropWhile_eq_nil_iff]

/-- The first rune of `trimSpace s` is not a space. -/
theorem head_trimSpace {s : String} {r : Char} (h : (trimSpace s).data.head? = some r) :
    isSpace r = false := by
  have hne : (trimSpace s).data ≠ [] := by rintro hnil; simp [hnil] at h
  rw [List.head?_eq_head hne, Option.some_inj] at h
  subst h
  change isSpace (((s.data.dropWhile isSpace).rdropWhile isSpace).head hne) = false
  rw [(List.rdropWhile_prefix isSpace _).head hne]
  exact List.head_dropWhile_not isSpace s.data _

/-- `trimSpace` leaves a string that neither starts nor ends with a space as it is. -/
theorem trimSpace_eq_self {s : String} (hhead : s.data.head?.all (!isSpace ·))
    (hlast : s.data.getLast?.all (!isSpace ·)) : trimSpace s = s := by
  obtain ⟨_ | ⟨a, t⟩⟩ := s
  · rfl
  · simp only [List.head?_cons, Option.all_some, Bool.not_eq_true'] at hhead
    simp only [trimSpace, List.dropWhile_cons_of_neg (by simpa using hhead)]
    congr 1
    rw [List.rdropWhile_eq_self_iff]
    intro hl
    rw [List.getLast?_eq_getLast _ hl] at hlast
    simpa using hlast

/-- The last rune of `trimSpace s` is not a space. -/
theorem getLast_trimSpace {s : String} {r : Char} (h : (trimSpace s).data.getLast? = some r) :
    isSpace r = false := by
  have hne : (trimSpace s).data ≠ [] := by rintro hnil; simp [hnil] at h
  rw [List.getLast?_eq_getLast _ hne, Option.some_inj] at h
  subst h
  simpa using List.rdropWhile_last_not isSpace _ hne

end SpreedSignaling
