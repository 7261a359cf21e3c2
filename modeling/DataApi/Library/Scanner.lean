import Mathlib.Tactic

/-!
# Leftmost non-overlapping matching

`re.sub` walks over a text from the left: where the pattern matches it emits
the replacement and continues behind the match, elsewhere it copies one symbol.
A pattern is given by what it finds at a position, which may depend on the
symbol before it.

The main rule (`scan_flatten`) says when a text may be scanned part by part:
when no match changes as the following parts are appended, and no lookbehind
sees the end of the part before.
-/

namespace DataApi
namespace Library

variable {α β : Type*}

/-- One item of a scanned text. -/
inductive Scanned (α β : Type*) where
  | copied (a : α)
  | matched (b : β)
  deriving DecidableEq

/-- What a pattern finds in front of a non-empty text, given the symbol before
it: how many symbols the match takes after its first one, and its value. -/
abbrev Matcher (α β : Type*) := Option α → List α → Option (Nat × β)

/-- Scan a text of which the first `skip` symbols belong to a match that has
been emitted. -/
def scanFrom (m : Matcher α β) : Option α → Nat → List α → List (Scanned α β)
  | _, _, [] => []
  | _, skip + 1, a :: rest => scanFrom m (some a) skip rest
  | prev, 0, a :: rest =>
      match m prev (a :: rest) with
      | none => .copied a :: scanFrom m (some a) 0 rest
      | some (extra, b) => .matched b :: scanFrom m (some a) extra rest

/-- Scan a whole text. -/
def scan (m : Matcher α β) (text : List α) : List (Scanned α β) :=
  scanFrom m none 0 text

/-- The values of the matches. -/
def matchesOf (items : List (Scanned α β)) : List β :=
  items.filterMap fun
    | .copied _ => none
    | .matched b => some b

/-- The text with every match replaced. -/
def substitute (m : Matcher α β) (replacement : β → List α) (text : List α) :
    List α :=
  (scan m text).flatMap fun
    | .copied a => [a]
    | .matched b => replacement b

@[simp] theorem matchesOf_append (items items' : List (Scanned α β)) :
    matchesOf (items ++ items') = matchesOf items ++ matchesOf items' :=
  List.filterMap_append

@[simp] theorem matchesOf_map_copied (text : List α) :
    matchesOf (text.map (Scanned.copied : α → Scanned α β)) = [] := by
  induction text with
  | nil => rfl
  | cons a rest ih => exact ih

/-- Matches do not reach behind the end of the text. -/
def Matcher.Bounded (m : Matcher α β) : Prop :=
  ∀ prev a rest extra b, m prev (a :: rest) = some (extra, b) →
    extra ≤ rest.length

/-- Appending `tail` changes no match inside `part`. -/
def Matcher.Stable (m : Matcher α β) (part tail : List α) : Prop :=
  ∀ prev a rest, a :: rest <:+ part →
    m prev (a :: rest ++ tail) = m prev (a :: rest)

/-- A text scans differently after another symbol only if its first match
does. -/
theorem scanFrom_congr_prev {m : Matcher α β} {prev prev' : Option α}
    {text : List α} (h : m prev text = m prev' text) :
    scanFrom m prev 0 text = scanFrom m prev' 0 text := by
  cases text with
  | nil => rfl
  | cons a rest => rw [scanFrom, scanFrom, h]

/-- Scanning a stable part leaves the scan of the tail to itself. -/
theorem scanFrom_append {m : Matcher α β} (hBounded : m.Bounded)
    {part tail : List α} (hSTable : m.Stable part tail) (prev : Option α)
    {skip : Nat} (hSkip : skip ≤ part.length) :
    scanFrom m prev skip (part ++ tail) =
      scanFrom m prev skip part ++
        scanFrom m (part.getLast?.or prev) 0 tail := by
  induction part generalizing prev skip with
  | nil =>
      obtain rfl : skip = 0 := Nat.le_zero.mp hSkip
      simp [scanFrom]
  | cons a rest ih =>
      have hRest : m.Stable rest tail := fun prev b bs hSuffix =>
        hSTable prev b bs (hSuffix.trans (List.suffix_cons a rest))
      have hLast : (a :: rest).getLast?.or prev = rest.getLast?.or (some a) := by
        rw [List.getLast?_cons]
        cases rest.getLast? <;> rfl
      cases skip with
      | succ skip =>
          -- inside a match that began in the part
          rw [List.cons_append, scanFrom, scanFrom, hLast]
          exact ih hRest (some a) (Nat.succ_le_succ_iff.mp hSkip)
      | zero =>
          rw [List.cons_append, scanFrom, scanFrom, hLast,
            ← List.cons_append, hSTable prev a rest List.suffix_rfl]
          cases hm : m prev (a :: rest) with
          | none => simp [ih hRest (some a) (Nat.zero_le _)]
          | some found =>
              obtain ⟨extra, b⟩ := found
              simp [ih hRest (some a) (hBounded prev a rest extra b hm)]

/-- The parts of a text that can be scanned one by one. -/
def Matcher.Separable (m : Matcher α β) : List (List α) → Prop
  | [] => True
  | part :: parts =>
      m.Stable part parts.flatten ∧
        m part.getLast? parts.flatten = m none parts.flatten ∧
        m.Separable parts

/-- A separable text is scanned part by part. -/
theorem scan_flatten {m : Matcher α β} (hBounded : m.Bounded)
    {parts : List (List α)} (hParts : m.Separable parts) :
    scan m parts.flatten = parts.flatMap (scan m) := by
  induction parts with
  | nil => rfl
  | cons part parts ih =>
      obtain ⟨hSTable, hPrev, hRest⟩ := hParts
      have hAppend := scanFrom_append hBounded hSTable none (Nat.zero_le _)
      rw [Option.or_none, scanFrom_congr_prev hPrev] at hAppend
      rw [List.flatten_cons, List.flatMap_cons, ← ih hRest]
      exact hAppend

/-- A separable text is rewritten part by part. -/
theorem substitute_flatten {m : Matcher α β} (hBounded : m.Bounded)
    (replacement : β → List α) {parts : List (List α)}
    (hParts : m.Separable parts) :
    substitute m replacement parts.flatten =
      parts.flatMap (substitute m replacement) := by
  rw [substitute, scan_flatten hBounded hParts, List.flatMap_assoc]
  rfl

/-- Parts whose ends are apart from the beginnings of their successors can be
scanned one by one, if `Apart` symbols shield the matches on both sides. -/
theorem separable_of_isChain {m : Matcher α β} (Apart : α → α → Prop)
    {parts : List (List α)} (hNonempty : ∀ part ∈ parts, part ≠ [])
    (hSTable : ∀ part ∈ parts, ∀ tail,
      (∀ a ∈ part.getLast?, ∀ b ∈ tail.head?, Apart a b) → m.Stable part tail)
    (hPrev : ∀ a b rest, Apart a b → m (some a) (b :: rest) = m none (b :: rest))
    (hNil : ∀ prev, m prev [] = m none [])
    (hChain : parts.IsChain fun part next =>
      ∀ a ∈ part.getLast?, ∀ b ∈ next.head?, Apart a b) :
    m.Separable parts := by
  induction parts with
  | nil => trivial
  | cons part parts ih =>
      have hApart : ∀ a ∈ part.getLast?, ∀ b ∈ parts.flatten.head?, Apart a b := by
        cases parts with
        | nil => exact fun _ _ _ hb => nomatch hb
        | cons next rest =>
            have hNext := hNonempty next
              (List.mem_cons_of_mem _ List.mem_cons_self)
            obtain ⟨b, next, rfl⟩ := List.exists_cons_of_ne_nil hNext
            exact (List.isChain_cons_cons.mp hChain).1
      refine ⟨hSTable part List.mem_cons_self _ hApart, ?_, ih
        (fun p hp => hNonempty p (List.mem_cons_of_mem _ hp))
        (fun p hp => hSTable p (List.mem_cons_of_mem _ hp)) hChain.tail⟩
      cases hLast : part.getLast? with
      | none => rfl
      | some a =>
          cases hTail : parts.flatten with
          | nil => exact hNil _
          | cons b rest =>
              rw [hLast, hTail] at hApart
              exact hPrev a b rest (hApart a rfl b rfl)

/-- A text that is not empty has an item. -/
theorem scan_ne_nil (m : Matcher α β) {text : List α} (h : text ≠ []) : scan m text ≠ [] := by
  obtain ⟨a, rest, rfl⟩ := List.exists_cons_of_ne_nil h
  rw [scan, scanFrom]
  split <;> exact List.cons_ne_nil _ _

/-- The symbols of a match are not scanned again. -/
theorem scanFrom_of_length_le {m : Matcher α β} {prev : Option α} {skip : Nat}
    {text : List α} (h : text.length ≤ skip) : scanFrom m prev skip text = [] := by
  induction text generalizing prev skip with
  | nil => simp [scanFrom]
  | cons a rest ih =>
      cases skip with
      | zero => exact absurd h (Nat.not_succ_le_zero _)
      | succ skip => exact ih (Nat.succ_le_succ_iff.mp h)

/-- A text without matches is copied. -/
theorem scanFrom_of_no_match {m : Matcher α β} {text : List α}
    (hNone : ∀ prev a rest, a :: rest <:+ text → m prev (a :: rest) = none)
    (prev : Option α) : scanFrom m prev 0 text = text.map .copied := by
  induction text generalizing prev with
  | nil => rfl
  | cons a rest ih =>
      rw [scanFrom, hNone prev a rest List.suffix_rfl, List.map_cons]
      exact congrArg _ (ih (fun prev b bs hSuffix =>
        hNone prev b bs (hSuffix.trans (List.suffix_cons a rest))) (some a))

/-- A text that is scanned without matches is rewritten to itself. -/
theorem substitute_of_scan_eq {m : Matcher α β} (replacement : β → List α)
    {text : List α} (h : scan m text = text.map .copied) :
    substitute m replacement text = text := by
  rw [substitute, h, List.flatMap_map]
  exact List.flatMap_singleton' text

/-- No match is emitted exactly when the whole text is copied; the symbols
then come out in order. -/
theorem scan_eq_map_copied_iff {m : Matcher α β} {text : List α} :
    scan m text = text.map .copied ↔ matchesOf (scan m text) = [] := by
  constructor
  · intro h
    rw [h, matchesOf_map_copied]
  · have hGen : ∀ (text : List α) (prev : Option α),
        matchesOf (scanFrom m prev 0 text) = [] →
          scanFrom m prev 0 text = text.map .copied := by
      intro text
      induction text with
      | nil => exact fun _ _ => rfl
      | cons a rest ih =>
          intro prev hNil
          rw [scanFrom] at hNil ⊢
          cases hm : m prev (a :: rest) with
          | none =>
              rw [hm] at hNil
              exact congrArg _ (ih (some a) hNil)
          | some found =>
              rw [hm] at hNil
              cases hNil
    exact hGen text none

/-- Where a pattern does not look back, it finds nothing in a text exactly when
it matches at none of its positions. -/
theorem matchesOf_scan_eq_nil_iff {m : Matcher α β}
    (hPrev : ∀ prev prev' text, m prev text = m prev' text) {text : List α} :
    matchesOf (scan m text) = [] ↔
      ∀ a rest, a :: rest <:+ text → m none (a :: rest) = none := by
  rw [← scan_eq_map_copied_iff]
  constructor
  · have hGen : ∀ (text : List α) (prev : Option α),
        scanFrom m prev 0 text = text.map .copied →
          ∀ a rest, a :: rest <:+ text → m none (a :: rest) = none := by
      intro text
      induction text with
      | nil =>
          intro _ _ a rest hSuffix
          exact absurd (List.suffix_nil.mp hSuffix) (List.cons_ne_nil a rest)
      | cons c cs ih =>
          intro prev hCopied a rest hSuffix
          rw [scanFrom] at hCopied
          cases hm : m prev (c :: cs) with
          | some found =>
              rw [hm] at hCopied
              cases hCopied
          | none =>
              rw [hm] at hCopied
              rcases List.suffix_cons_iff.mp hSuffix with hEq | hInner
              · rw [hEq, hPrev none prev, hm]
              · exact ih _ (List.cons.inj hCopied).2 a rest hInner
    exact hGen text none
  · intro hNone
    refine scanFrom_of_no_match (fun prev a rest hSuffix => ?_) none
    rw [hPrev prev none]
    exact hNone a rest hSuffix

/-- If every replacement is shorter than its match, each match costs a symbol. -/
theorem length_replaced_le {m : Matcher α β} (hBounded : m.Bounded)
    {replacement : β → List α}
    (hShort : ∀ prev text extra b, m prev text = some (extra, b) →
      (replacement b).length ≤ extra)
    {text : List α} (prev : Option α) {skip : Nat} (hSkip : skip ≤ text.length) :
    ((scanFrom m prev skip text).flatMap fun
        | .copied a => [a]
        | .matched b => replacement b).length + skip +
      (matchesOf (scanFrom m prev skip text)).length ≤ text.length := by
  induction text generalizing prev skip with
  | nil =>
      obtain rfl : skip = 0 := Nat.le_zero.mp hSkip
      exact le_rfl
  | cons a rest ih =>
      cases skip with
      | succ skip =>
          -- each symbol that is skipped pays for one of the replacement
          have hRest := ih (some a) (Nat.succ_le_succ_iff.mp hSkip)
          rw [scanFrom, List.length_cons]
          omega
      | zero =>
          rw [scanFrom]
          cases hm : m prev (a :: rest) with
          | none =>
              have hRest := ih (some a) (Nat.zero_le _)
              simp only [matchesOf, List.flatMap_cons, List.filterMap_cons,
                List.length_append, List.length_cons, List.length_nil] at hRest ⊢
              omega
          | some found =>
              obtain ⟨extra, b⟩ := found
              have hRest := ih (some a) (hBounded prev a rest extra b hm)
              have hCost := hShort prev _ extra b hm
              simp only [matchesOf, List.flatMap_cons, List.filterMap_cons,
                List.length_append, List.length_cons] at hRest ⊢
              omega

/-- A rewrite that shortens every match leaves exactly the texts without a
match as they are. -/
theorem substitute_eq_self_iff {m : Matcher α β} (hBounded : m.Bounded)
    {replacement : β → List α}
    (hShort : ∀ prev text extra b, m prev text = some (extra, b) →
      (replacement b).length ≤ extra) {text : List α} :
    substitute m replacement text = text ↔ matchesOf (scan m text) = [] := by
  constructor
  · intro hSame
    have hLe := length_replaced_le hBounded hShort none
      (Nat.zero_le text.length)
    have hLength := congrArg List.length hSame
    rw [substitute, scan] at hLength
    rw [scan, ← List.length_eq_zero_iff]
    omega
  · intro hNone
    exact substitute_of_scan_eq replacement (scan_eq_map_copied_iff.mpr hNone)

end Library
end DataApi
