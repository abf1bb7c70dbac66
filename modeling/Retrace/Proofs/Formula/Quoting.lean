import Mathlib.Data.List.Basic
import Retrace.Formula.Nesting
import Retrace.Text.Blank

/-!
Quoted spans of a text, read character by character: what a scanner sees, which spans it finds, and
when its reading agrees with that of plain quotes, which no backslash protects.
-/

namespace Retrace.Formula

/-- Where a scanner stands behind a text. -/
def Quoting.past (quoting : Quoting) (text : List Char) : Quoting :=
  text.foldl Quoting.next quoting

/-- All quoted spans of the text are closed. -/
def Terminated (text : List Char) : Prop :=
  Quoting.past .outside text = .outside

instance (text : List Char) : Decidable (Terminated text) :=
  inferInstanceAs (Decidable (_ = _))

/-- The quoted spans of a text in order, with their marks. A span may be open in front of the text, in
which case its rest comes first. -/
def spansFrom (quoting : Quoting) : List Char → List (List Char)
  | [] => []
  | c :: rest =>
    if quoting.covers c then
      if quoting.next c = .outside then [c] :: spansFrom .outside rest
      else Text.consFirst c (spansFrom (quoting.next c) rest)
    else spansFrom .outside rest

/-- The quoted spans of a whole text in order, with their marks. -/
def spans (text : List Char) : List (List Char) :=
  spansFrom .outside text

/-- The characters of a text, each with where a scanner stands in front of it. -/
def scan (quoting : Quoting) : List Char → List (Quoting × Char)
  | [] => []
  | c :: rest => (quoting, c) :: scan (quoting.next c) rest

/-- What a scanner sees of a text, without the characters outside spans that the test drops. -/
def seen (drop : Char → Bool) (quoting : Quoting) (text : List Char) : List (Quoting × Char) :=
  (scan quoting text).filter fun entry => entry.1.covers entry.2 || ! drop entry.2

namespace Quoting

variable {quoting : Quoting} {c : Char}

@[simp] theorem past_nil (quoting : Quoting) : quoting.past [] = quoting := rfl

@[simp] theorem past_cons (quoting : Quoting) (c : Char) (text : List Char) :
    quoting.past (c :: text) = (quoting.next c).past text := rfl

/-- Behind two texts a scanner stands where the second one takes it from behind the first. -/
theorem past_append (quoting : Quoting) (text rest : List Char) :
    quoting.past (text ++ rest) = (quoting.past text).past rest :=
  List.foldl_append

/-- A character that is no mark leaves the scanner outside. -/
theorem next_of_unmarked (unmarked : isMark c = false) : Quoting.outside.next c = .outside := by
  simp [next, unmarked]

/-- A character outside every span is no mark and leaves the scanner outside. -/
theorem of_not_covers (uncovered : quoting.covers c = false) :
    quoting = .outside ∧ isMark c = false ∧ quoting.next c = .outside := by
  obtain ⟨rfl, unquoted⟩ : quoting = .outside ∧ isMark c = false := by
    simpa [covers] using uncovered
  exact ⟨rfl, unquoted, next_of_unmarked unquoted⟩

end Quoting

section Seen

variable {drop : Char → Bool} {quoting : Quoting} {c : Char} {text other : List Char}

/-- Two texts are scanned one after the other. -/
theorem scan_append (quoting : Quoting) (text rest : List Char) :
    scan quoting (text ++ rest) = scan quoting text ++ scan (quoting.past text) rest := by
  induction text generalizing quoting with
  | nil => rfl
  | cons c text ih => simp [scan, ih]

@[simp] theorem seen_nil (drop : Char → Bool) (quoting : Quoting) : seen drop quoting [] = [] := rfl

/-- What is seen of two texts is what is seen of the one and then of the other. -/
theorem seen_append (drop : Char → Bool) (quoting : Quoting) (text rest : List Char) :
    seen drop quoting (text ++ rest) =
      seen drop quoting text ++ seen drop (quoting.past text) rest := by
  rw [seen, scan_append, List.filter_append]
  rfl

/-- A character that is seen comes first. -/
theorem seen_cons (shown : quoting.covers c = true ∨ drop c = false) :
    seen drop quoting (c :: text) = (quoting, c) :: seen drop (quoting.next c) text := by
  rw [seen, scan, List.filter_cons_of_pos]
  · rfl
  · simpa using shown

/-- Outside spans a character that is dropped makes no difference. -/
theorem seen_cons_of_drop (unquoted : isMark c = false) (dropped : drop c = true) :
    seen drop .outside (c :: text) = seen drop .outside text := by
  rw [seen, scan, List.filter_cons_of_neg]
  · simp [seen, Quoting.next_of_unmarked unquoted]
  · simp [unquoted, dropped]

/-- A character is either seen, or it is dropped outside every span. -/
theorem seen_or_dropped (drop : Char → Bool) (quoting : Quoting) (c : Char) :
    (quoting.covers c = true ∨ drop c = false) ∨
      quoting = .outside ∧ isMark c = false ∧ drop c = true := by
  cases covered : quoting.covers c with
  | true => exact .inl (.inl rfl)
  | false =>
    obtain ⟨outside, unquoted, -⟩ := Quoting.of_not_covers covered
    cases dropped : drop c with
    | false => exact .inl (.inr rfl)
    | true => exact .inr ⟨outside, unquoted, rfl⟩

/-- A character in front of two texts that look alike behind it. -/
theorem seen_cons_congr
    (same : seen drop (quoting.next c) text = seen drop (quoting.next c) other) :
    seen drop quoting (c :: text) = seen drop quoting (c :: other) := by
  rcases seen_or_dropped drop quoting c with shown | ⟨rfl, unquoted, dropped⟩
  · rw [seen_cons shown, seen_cons shown, same]
  · -- A character that is dropped leaves the scanner outside.
    have left := Quoting.next_of_unmarked unquoted
    rw [left] at same
    rw [seen_cons_of_drop unquoted dropped, seen_cons_of_drop unquoted dropped, same]

/-- If more is dropped, texts that look alike still look alike. -/
theorem seen_congr_of_drop {more : Char → Bool} (drops : ∀ c, drop c = true → more c = true)
    (same : seen drop quoting text = seen drop quoting other) :
    seen more quoting text = seen more quoting other := by
  -- Whatever is seen with more dropped is seen with less dropped.
  have again (text : List Char) : seen more quoting text =
      (seen drop quoting text).filter fun entry => entry.1.covers entry.2 || ! more entry.2 := by
    rw [seen, seen, List.filter_filter]
    refine List.filter_congr fun entry _ => ?_
    have dropped := drops entry.2
    cases covered : entry.1.covers entry.2 <;> cases first : drop entry.2 <;>
      cases second : more entry.2 <;> simp_all
  rw [again, again, same]

/-- Characters that are no marks leave the scanner outside. -/
theorem past_of_unmarked (unmarked : ∀ c ∈ text, isMark c = false) :
    Quoting.outside.past text = .outside := by
  induction text with
  | nil => rfl
  | cons c text ih =>
    obtain ⟨first, later⟩ := List.forall_mem_cons.mp unmarked
    rw [Quoting.past_cons, Quoting.next_of_unmarked first, ih later]

/-- Outside spans, characters that are dropped make no difference. -/
theorem seen_append_of_drop (unmarked : ∀ c ∈ text, isMark c = false)
    (dropped : ∀ c ∈ text, drop c = true) :
    seen drop .outside (text ++ other) = seen drop .outside other := by
  induction text with
  | nil => rfl
  | cons c text ih =>
    obtain ⟨first, later⟩ := List.forall_mem_cons.mp unmarked
    obtain ⟨hidden, others⟩ := List.forall_mem_cons.mp dropped
    rw [List.cons_append, seen_cons_of_drop first hidden, ih later others]

/-- Nothing is seen of a text without marks that is dropped as a whole. -/
theorem seen_eq_nil_of_drop (unmarked : ∀ c ∈ text, isMark c = false)
    (dropped : ∀ c ∈ text, drop c = true) : seen drop .outside text = [] := by
  rw [← List.append_nil text, seen_append_of_drop unmarked dropped, seen_nil]

/-- Where a scanner gets to is told by what it sees. -/
theorem past_eq_foldl_seen (drop : Char → Bool) (quoting : Quoting) (text : List Char) :
    quoting.past text =
      (seen drop quoting text).foldl (fun quoting entry => quoting.next entry.2) quoting := by
  induction text generalizing quoting with
  | nil => rfl
  | cons c text ih =>
    rcases seen_or_dropped drop quoting c with shown | ⟨rfl, unquoted, dropped⟩
    · rw [seen_cons shown, List.foldl_cons, Quoting.past_cons, ih]
    · -- Characters that are not seen leave the scanner outside.
      have left := Quoting.next_of_unmarked unquoted
      rw [seen_cons_of_drop unquoted dropped, Quoting.past_cons, left, ih]

/-- Texts that look alike lead a scanner to the same place. -/
theorem past_congr (same : seen drop quoting text = seen drop quoting other) :
    quoting.past text = quoting.past other := by
  rw [past_eq_foldl_seen drop, same, ← past_eq_foldl_seen]

/-- The spans that characters make up, each of which closes its span if it leads outside. -/
def spansOf (entries : List (Quoting × Char)) : List (List Char) :=
  entries.foldr (fun entry spans =>
    if entry.1.next entry.2 = .outside then [entry.2] :: spans else Text.consFirst entry.2 spans) []

/-- The spans of a text are made up of what is seen if everything outside them is dropped. -/
theorem spansFrom_eq_spansOf (quoting : Quoting) (text : List Char) :
    spansFrom quoting text = spansOf (seen (fun _ => true) quoting text) := by
  induction text generalizing quoting with
  | nil => rfl
  | cons c text ih =>
    rw [spansFrom]
    cases covered : quoting.covers c with
    | true =>
      have first := @seen_cons (fun _ => true) quoting c text (.inl covered)
      rw [if_pos rfl, first, spansOf, List.foldr_cons, ← spansOf, ih, ih]
      -- Behind the end of a span the scanner stands outside.
      by_cases closes : quoting.next c = .outside
      · rw [if_pos closes, if_pos closes, closes]
      · rw [if_neg closes, if_neg closes]
    | false =>
      -- What no span covers is not shown, and the scanner stays outside.
      obtain ⟨rfl, unquoted, -⟩ := Quoting.of_not_covers covered
      rw [seen_cons_of_drop unquoted rfl, ih]
      rfl

/-- Texts that look alike have the same spans. -/
theorem spansFrom_congr (same : seen drop quoting text = seen drop quoting other) :
    spansFrom quoting text = spansFrom quoting other := by
  have quoted : seen (fun _ => true) quoting text = seen (fun _ => true) quoting other :=
    seen_congr_of_drop (fun _ _ => rfl) same
  rw [spansFrom_eq_spansOf, spansFrom_eq_spansOf, quoted]

end Seen

/-- The mark that opened the span that a scanner stands in. -/
def Quoting.mark? : Quoting → Option Char
  | .outside => none
  | .inside mark => some mark
  | .escaped mark => some mark

/-- No backslash protects the mark that would end its span. -/
def Unescaped (quoting : Quoting) (text : List Char) : Prop :=
  ∀ entry ∈ scan quoting text, entry.1 ≠ .escaped entry.2

instance (quoting : Quoting) (text : List Char) : Decidable (Unescaped quoting text) :=
  inferInstanceAs (Decidable (∀ _ ∈ _, _))

/-- A text whose spans are those of plain quotes, all of them closed. -/
structure PlainlyQuoted (quoting : Quoting) (text : List Char) : Prop where
  unescaped : Unescaped quoting text
  closed : quoting.past text = .outside

section Plain

variable {drop : Char → Bool} {quoting : Quoting} {c : Char} {text other rest : List Char}

/-- Spans are opened by marks. -/
def Quoting.Marked (quoting : Quoting) : Prop :=
  ∀ mark ∈ quoting.mark?, isMark mark = true

theorem Quoting.marked_outside : Quoting.outside.Marked := by
  simp [Marked, mark?]

/-- No character changes a span's mark into something else. -/
theorem Quoting.Marked.next (marked : quoting.Marked) (c : Char) : (quoting.next c).Marked := by
  cases quoting with
  | outside => cases mark : isMark c <;> simp [Marked, Quoting.next, mark?, mark]
  | inside mark =>
    -- Behind a backslash the span is still the same, and behind its mark there is none.
    simp only [Quoting.next]
    split
    · exact marked
    · split
      · exact marked_outside
      · exact marked
  | escaped mark => exact marked

/-- Neither does a text. -/
theorem Quoting.Marked.past (marked : quoting.Marked) (text : List Char) :
    (quoting.past text).Marked := by
  induction text generalizing quoting with
  | nil => exact marked
  | cons c text ih => exact ih (marked.next c)

/-- Spans are closed by marks as well. -/
theorem Quoting.Marked.isMark_of_next (marked : quoting.Marked) (covered : quoting.covers c = true)
    (left : quoting.next c = .outside) : isMark c = true := by
  cases quoting with
  | outside => simpa using covered
  | inside mark =>
    -- Only its own mark closes a span.
    simp only [Quoting.next] at left
    split at left
    · cases left
    · split at left
      · rename_i same
        exact same ▸ marked mark rfl
      · cases left
  | escaped mark => cases left

/-- Characters that are no marks close no span. -/
theorem Quoting.Marked.outside_of_past (marked : quoting.Marked)
    (unmarked : ∀ c ∈ text, isMark c = false) (closed : quoting.past text = .outside) :
    quoting = .outside := by
  induction text generalizing quoting with
  | nil => exact closed
  | cons c text ih =>
    obtain ⟨first, later⟩ := List.forall_mem_cons.mp unmarked
    have next := ih (marked.next c) later closed
    -- A covered character that leaves the scanner outside would have to be a mark.
    cases covered : quoting.covers c with
    | true =>
      have mark := marked.isMark_of_next covered next
      rw [first] at mark
      cases mark
    | false => exact (Quoting.of_not_covers covered).1

/-- Where the mark of a span is not protected, plain quotes go the same way. -/
theorem toggle_mark? (marked : quoting.Marked) (plain : quoting ≠ .escaped c) :
    toggle quoting.mark? c = (quoting.next c).mark? := by
  cases quoting with
  | outside => cases mark : isMark c <;> simp [toggle, Quoting.next, Quoting.mark?, mark]
  | inside mark =>
    have quotes : isMark mark = true := marked mark rfl
    by_cases backslash : c = '\\'
    · -- A backslash is no mark.
      have other : '\\' ≠ mark := by rintro rfl; cases quotes
      simp [toggle, Quoting.next, Quoting.mark?, backslash, other]
    · by_cases closes : c = mark
      · subst closes
        simp [toggle, Quoting.next, Quoting.mark?, backslash]
      · simp [toggle, Quoting.next, Quoting.mark?, backslash, closes]
  | escaped mark =>
    -- A mark behind a backslash is what a plainly quoted text does not hold.
    have other : c ≠ mark := by rintro rfl; exact plain rfl
    simp [toggle, Quoting.next, Quoting.mark?, other]

/-- Only outside every span there is no mark. -/
theorem Quoting.mark?_eq_none_iff : quoting.mark? = none ↔ quoting = .outside := by
  cases quoting <;> simp [mark?]

/-- Where no backslash protects a mark in two texts, it protects none in either. -/
theorem unescaped_append_iff :
    Unescaped quoting (text ++ rest) ↔
      Unescaped quoting text ∧ Unescaped (quoting.past text) rest := by
  rw [Unescaped, scan_append, List.forall_mem_append]
  rfl

/-- Whether a mark is protected is told by what is seen. -/
theorem unescaped_iff_seen (drop : Char → Bool) :
    Unescaped quoting text ↔ ∀ entry ∈ seen drop quoting text, entry.1 ≠ .escaped entry.2 := by
  simp only [seen, List.mem_filter, and_imp]
  refine forall₂_congr fun entry member => ⟨fun plain _ => plain, fun plain same => ?_⟩
  -- A protected character is in a span.
  exact plain (by simp [same, Quoting.covers]) same

/-- Without backslashes in its spans, a text protects no mark. -/
theorem unescaped_of_spansFrom (plain : ∀ span ∈ spansFrom quoting text, '\\' ∉ span)
    (fresh : ∀ mark, quoting ≠ .escaped mark) : Unescaped quoting text := by
  induction text generalizing quoting with
  | nil => simp [Unescaped, scan]
  | cons c text ih =>
    rw [spansFrom] at plain
    refine List.forall_mem_cons.mpr ⟨fresh c, ?_⟩
    cases covered : quoting.covers c with
    | false =>
      obtain ⟨rfl, -, left⟩ := Quoting.of_not_covers covered
      rw [if_neg (by simp [covered])] at plain
      rw [left]
      exact ih plain (by simp)
    | true =>
      -- The character belongs to the first span, and so do those behind it up to the closing mark.
      rw [if_pos covered] at plain
      obtain ⟨differs, later⟩ : c ≠ '\\' ∧
          ∀ span ∈ spansFrom (quoting.next c) text, '\\' ∉ span := by
        split at plain
        · rename_i closes
          rw [closes]
          obtain ⟨first, others⟩ := List.forall_mem_cons.mp plain
          exact ⟨fun same => first (by simp [same]), others⟩
        · cases behind : spansFrom (quoting.next c) text with
          | nil =>
            rw [behind] at plain
            exact ⟨fun same => plain [c] List.mem_cons_self (by simp [same]), by simp⟩
          | cons span spans =>
            rw [behind] at plain
            obtain ⟨first, others⟩ := List.forall_mem_cons.mp plain
            obtain ⟨differs, inside⟩ := List.ne_and_not_mem_of_not_mem_cons first
            exact ⟨differs.symm, List.forall_mem_cons.mpr ⟨inside, others⟩⟩
      refine ih later fun mark protects => ?_
      -- Only a backslash protects what follows it.
      cases quoting with
      | outside => cases opens : isMark c <;> simp [Quoting.next, opens] at protects
      | inside own =>
        simp only [Quoting.next, if_neg differs] at protects
        split at protects <;> cases protects
      | escaped own => exact fresh own rfl

/-- Plain quotes go the way of the scanner where no mark is protected. -/
theorem foldl_toggle (marked : quoting.Marked) (unescaped : Unescaped quoting text) :
    text.foldl toggle quoting.mark? = (quoting.past text).mark? := by
  induction text generalizing quoting with
  | nil => rfl
  | cons c text ih =>
    obtain ⟨first, later⟩ := List.forall_mem_cons.mp unescaped
    rw [List.foldl_cons, toggle_mark? marked first, ih (marked.next c) later, Quoting.past_cons]

/-- Nothing is quoted plainly. -/
theorem PlainlyQuoted.nil : PlainlyQuoted .outside [] where
  unescaped := by simp [Unescaped, scan]
  closed := rfl

/-- A character in front of a text that is quoted plainly behind it. -/
theorem PlainlyQuoted.cons (plain : PlainlyQuoted (quoting.next c) text)
    (unescaped : quoting ≠ .escaped c) : PlainlyQuoted quoting (c :: text) where
  unescaped := List.forall_mem_cons.mpr ⟨unescaped, plain.unescaped⟩
  closed := plain.closed

/-- Behind its first character a text is quoted plainly as well. -/
theorem PlainlyQuoted.of_cons (plain : PlainlyQuoted quoting (c :: text)) :
    quoting ≠ .escaped c ∧ PlainlyQuoted (quoting.next c) text := by
  obtain ⟨first, later⟩ := List.forall_mem_cons.mp plain.unescaped
  exact ⟨first, ⟨later, plain.closed⟩⟩

/-- Texts that look alike are both quoted plainly or neither. -/
theorem PlainlyQuoted.congr (same : seen drop quoting text = seen drop quoting other)
    (plain : PlainlyQuoted quoting text) : PlainlyQuoted quoting other where
  unescaped := by
    rw [unescaped_iff_seen drop, ← same, ← unescaped_iff_seen]
    exact plain.unescaped
  closed := past_congr same ▸ plain.closed

/-- A text that is quoted plainly falls into two such texts outside every span. -/
theorem PlainlyQuoted.of_append (plain : PlainlyQuoted quoting (text ++ rest))
    (outside : quoting.past text = .outside) :
    PlainlyQuoted quoting text ∧ PlainlyQuoted .outside rest := by
  obtain ⟨first, second⟩ := unescaped_append_iff.mp plain.unescaped
  have closed := plain.closed
  rw [Quoting.past_append, outside] at closed
  rw [outside] at second
  exact ⟨⟨first, outside⟩, ⟨second, closed⟩⟩

end Plain

end Retrace.Formula
