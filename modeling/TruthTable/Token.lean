/-
# Tokens

A formula is written as a sequence of proposition letters, connectives and parentheses.
A token sequence need not be the sequence of any formula.

The letters of a formula that was read from a text are `A` to `Z`.  Token sequences from
elsewhere may hold other characters as letters, and nothing here depends on the
alphabet, except `Token.IsStandard`, which says when a token has a written form that can
be read back.
-/
import TruthTable.Connective

namespace TruthTable

/-- A lexical unit of a written formula. -/
inductive Token where
  /-- A proposition letter. -/
  | letter (c : Char)
  | connective (op : Connective)
  | leftParen
  | rightParen
deriving DecidableEq

namespace Token

/-- The part that a token can play in a formula. -/
inductive Kind where
  | leftParen
  | rightParen
  | letter
  | unary
  | binary
deriving DecidableEq

/-- The part that a token plays. -/
def kind : Token → Kind
  | letter _ => .letter
  | connective op => if op.isUnary then .unary else .binary
  | leftParen => .leftParen
  | rightParen => .rightParen

/-- The letter of a token that is one. -/
def letter? : Token → Option Char
  | letter c => some c
  | _ => none

@[simp] theorem letter?_letter (c : Char) : (letter c).letter? = some c := rfl

@[simp] theorem letter?_connective (op : Connective) : (connective op).letter? = none := rfl

@[simp] theorem letter?_leftParen : leftParen.letter? = none := rfl

@[simp] theorem letter?_rightParen : rightParen.letter? = none := rfl

/-- Whether a token is a parenthesis. -/
def isParen : Token → Bool
  | leftParen | rightParen => true
  | _ => false

/-- The written form of a token. -/
def text : Token → String
  | letter c => c.toString
  | connective op => op.symbol
  | leftParen => "("
  | rightParen => ")"

/-- Whether a token can occur in a text: every token can, except a letter other than
`A` to `Z`. -/
def IsStandard : Token → Prop
  | letter c => 'A' ≤ c ∧ c ≤ 'Z'
  | _ => True

instance (t : Token) : Decidable t.IsStandard := by
  cases t <;> unfold IsStandard <;> infer_instance

/-- The written form of a sequence, without anything between the tokens. -/
def surface (ts : List Token) : String :=
  String.join (ts.map text)

/-! ## The letters of a sequence -/

/-- Puts a letter into its place in a strictly increasing list, unless it is there. -/
def insertLetter (c : Char) : List Char → List Char
  | [] => [c]
  | d :: ds => if c < d then c :: d :: ds else if c = d then d :: ds else d :: insertLetter c ds

/-- The distinct letters of a sequence, in increasing order. -/
def letters (ts : List Token) : List Char :=
  (ts.filterMap letter?).foldr insertLetter []

theorem mem_insertLetter {c x : Char} {ds : List Char} :
    x ∈ insertLetter c ds ↔ x = c ∨ x ∈ ds := by
  induction ds with
  | nil => simp [insertLetter]
  | cons d ds ih =>
    unfold insertLetter
    split
    · simp
    · split
      · rename_i h
        subst h
        simp
      · simp only [List.mem_cons, ih]
        exact or_left_comm

/-- Exactly the letters that occur in a sequence are listed. -/
theorem mem_letters {x : Char} {ts : List Token} : x ∈ letters ts ↔ letter x ∈ ts := by
  have hfold : ∀ cs : List Char, x ∈ cs.foldr insertLetter [] ↔ x ∈ cs := by
    intro cs
    induction cs with
    | nil => simp
    | cons c cs ih => simp [mem_insertLetter, ih]
  rw [letters, hfold, List.mem_filterMap]
  constructor
  · rintro ⟨t, ht, h⟩
    cases t <;> simp_all [letter?]
  · exact fun h => ⟨_, h, rfl⟩

theorem pairwise_insertLetter {c : Char} {ds : List Char} (h : ds.Pairwise (· < ·)) :
    (insertLetter c ds).Pairwise (· < ·) := by
  induction ds with
  | nil => simp [insertLetter]
  | cons d ds ih =>
    rw [List.pairwise_cons] at h
    unfold insertLetter
    split
    · rename_i hlt
      refine List.pairwise_cons.2 ⟨?_, List.pairwise_cons.2 h⟩
      intro x hx
      rcases List.mem_cons.1 hx with rfl | hx
      · exact hlt
      · exact Nat.lt_trans hlt (h.1 x hx)
    · split
      · exact List.pairwise_cons.2 h
      · rename_i hlt hne
        refine List.pairwise_cons.2 ⟨?_, ih h.2⟩
        intro x hx
        rcases mem_insertLetter.1 hx with rfl | hx
        · exact Char.not_le.1 fun hle => hne (Char.le_antisymm hle (Char.not_lt.1 hlt))
        · exact h.1 x hx

/-- The listed letters increase strictly, so each stands there once. -/
theorem pairwise_letters (ts : List Token) : (letters ts).Pairwise (· < ·) := by
  unfold letters
  induction ts.filterMap letter? with
  | nil => simp
  | cons c cs ih => exact pairwise_insertLetter ih

end Token

end TruthTable
