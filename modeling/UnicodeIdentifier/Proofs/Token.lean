import Mathlib.Data.List.Chain
import Mathlib.Data.List.TakeWhile
import UnicodeIdentifier.Proofs.Standard
import UnicodeIdentifier.Proofs.Text.Line
import UnicodeIdentifier.Token

/-!
# The tokens of a text

A list of tokens partitions a text when the tokens stand side by side from its first byte to its last,
the characters of each are those of its kind, and no identifier stops before a character that could
continue it.  Reading a text from the left makes the same choices one after another, so the tokens that
are read are the only partition.  Two identifiers never meet in it, because what begins an identifier
also continues one.
-/

namespace UnicodeIdentifier

namespace Token

variable {kind : TokenKind} {start : Nat} {front back chars : List Char}

@[simp]
theorem kind_ofChars : (ofChars kind start chars).kind = kind := rfl

@[simp]
theorem start_ofChars : (ofChars kind start chars).start = start := rfl

@[simp]
theorem stop_ofChars : (ofChars kind start chars).stop = start + width chars := rfl

@[simp]
theorem toList_text_ofChars : (ofChars kind start chars).text.toList = chars :=
  String.toList_ofList

@[simp]
theorem width_append : width (front ++ back) = width front + width back := by
  induction front with
  | nil => simp [width]
  | cons char front ih => simp [width, ih, Nat.add_assoc]

theorem width_cons (char : Char) (chars : List Char) :
    width (char :: chars) = width [char] + width chars :=
  @width_append [char] chars

@[simp]
theorem utf8ByteSize_ofList (chars : List Char) : (String.ofList chars).utf8ByteSize = width chars := by
  induction chars with
  | nil => rfl
  | cons char chars ih =>
    have text_eq : String.ofList (char :: chars) = String.singleton char ++ String.ofList chars := by
      rw [String.singleton_eq_ofList, ← String.ofList_append]
      rfl
    rw [text_eq, String.utf8ByteSize_append, ih, width]
    simp

theorem utf8ByteSize_eq_width (text : String) : text.utf8ByteSize = width text.toList := by
  rw [← utf8ByteSize_ofList, String.ofList_toList]

/-- The tokens stand side by side: the first begins at the first byte position, each takes as many
bytes as its text and is followed at once by the next, and the last ends at the second position. -/
def Adjoin (first last : Nat) : List Token → Prop
  | [] => first = last
  | token :: rest => token.start = first ∧ token.stop = first + token.text.utf8ByteSize ∧
    Adjoin token.stop last rest

@[simp]
theorem adjoin_ofChars_cons {last : Nat} {tokens : List Token} :
    Adjoin start last (ofChars kind start chars :: tokens) ↔
      Adjoin (start + width chars) last tokens := by
  simp [Adjoin, utf8ByteSize_eq_width]

/-- A token is known by its kind, its first byte position and its characters, if it is as wide as its
text. -/
theorem eq_ofChars {token : Token} (begin_eq : token.start = start)
    (end_eq : token.stop = start + token.text.utf8ByteSize) (chars_eq : token.text.toList = chars) :
    token = ofChars token.kind start chars := by
  obtain ⟨kind, first, stop, text⟩ := token
  dsimp only at begin_eq end_eq chars_eq
  subst end_eq begin_eq chars_eq
  simp [ofChars, utf8ByteSize_eq_width]

/-- The characters of tokens, one token after another. -/
def charsOf (tokens : List Token) : List Char := tokens.flatMap (·.text.toList)

@[simp]
theorem toList_join_text (tokens : List Token) :
    (String.join (tokens.map (·.text))).toList = charsOf tokens := by
  rw [String.toList_join, List.flatMap_map]
  rfl

end Token

namespace Classifier

variable {classifier : Classifier} {first last start : Nat} {char : Char}
  {chars body rest front back : List Char} {token : Token} {found tokens : List Token} {text : String}

/-- The characters of a token are those of its kind. -/
def Fits (classifier : Classifier) (token : Token) : Prop :=
  match token.kind with
  | .identifier => ∃ char rest, token.text.toList = char :: rest ∧ classifier.begins char = true ∧
      ∀ next ∈ rest, classifier.continues next = true
  | .other => ∃ char, token.text.toList = [char] ∧ classifier.begins char = false

/-- An identifier could not go on into the characters. -/
def Stops (classifier : Classifier) (chars : List Char) : Prop :=
  ∀ char, chars.head? = some char → classifier.continues char = false

/-- The tokens are a partition of the text into longest identifiers and single other characters. -/
structure Partitions (classifier : Classifier) (text : String) (tokens : List Token) : Prop where
  joined : String.join (tokens.map (·.text)) = text
  adjoin : Token.Adjoin 0 text.utf8ByteSize tokens
  fits : ∀ token ∈ tokens, classifier.Fits token
  longest : ∀ before token after, tokens = before ++ token :: after → token.kind = .identifier →
    classifier.Stops (String.join (after.map (·.text))).toList

/-- The characters from a byte position on are cut into the tokens, one token after another. -/
inductive Cuts (classifier : Classifier) : Nat → List Char → List Token → Prop
  | done (start : Nat) : Cuts classifier start [] []
  | identifier {start : Nat} {char : Char} {body rest : List Char} {tokens : List Token}
      (begins : classifier.begins char = true)
      (continues : ∀ next ∈ body, classifier.continues next = true)
      (stops : classifier.Stops rest)
      (others : Cuts classifier (start + Token.width (char :: body)) rest tokens) :
      Cuts classifier start (char :: body ++ rest)
        (Token.ofChars .identifier start (char :: body) :: tokens)
  | other {start : Nat} {char : Char} {rest : List Char} {tokens : List Token}
      (begins : classifier.begins char = false)
      (others : Cuts classifier (start + Token.width [char]) rest tokens) :
      Cuts classifier start (char :: rest) (Token.ofChars .other start [char] :: tokens)

theorem stops_dropWhile : classifier.Stops (chars.dropWhile classifier.continues) :=
  (Text.takeWhile_dropWhile_eq_iff.mp ⟨rfl, rfl⟩).2.2

theorem exists_cuts (found : List Token) (start : Nat) (chars : List Char) :
    ∃ tokens, classifier.tokensOnto found start chars = found.reverse ++ tokens ∧
      classifier.Cuts start chars tokens := by
  fun_induction classifier.tokensOnto found start chars with
  | case1 found start => exact ⟨[], (List.append_nil _).symm, .done start⟩
  | case2 found start char rest begins token ih =>
    obtain ⟨tokens, isRead, others⟩ := ih
    have continues : ∀ next ∈ rest.takeWhile classifier.continues, classifier.continues next = true :=
      fun next member => List.mem_takeWhile_imp member
    have cuts := Cuts.identifier begins continues stops_dropWhile others
    rw [List.cons_append, List.takeWhile_append_dropWhile] at cuts
    exact ⟨token :: tokens, by simp [isRead], cuts⟩
  | case3 found start char rest begins token ih =>
    obtain ⟨tokens, isRead, others⟩ := ih
    exact ⟨token :: tokens, by simp [isRead], .other (Bool.eq_false_iff.mpr begins) others⟩

theorem Cuts.tokensOnto_eq (cuts : classifier.Cuts start chars tokens) (found : List Token) :
    classifier.tokensOnto found start chars = found.reverse ++ tokens := by
  induction cuts generalizing found with
  | done start => rw [tokensOnto, List.append_nil]
  | @identifier start char body rest tokens begins continues stops others ih =>
    obtain ⟨body_eq, rest_eq⟩ := Text.takeWhile_dropWhile_eq_iff.mpr ⟨rfl, continues, stops⟩
    rw [List.cons_append, tokensOnto, if_pos begins, body_eq, rest_eq]
    simpa using ih (Token.ofChars .identifier start (char :: body) :: found)
  | @other start char rest tokens begins others ih =>
    rw [tokensOnto, if_neg (Bool.eq_false_iff.mp begins)]
    simpa using ih (Token.ofChars .other start [char] :: found)

/-- The tokens of a text are its only cut. -/
theorem cuts_iff_tokenize_eq :
    classifier.Cuts 0 text.toList tokens ↔ classifier.tokenize text = tokens := by
  constructor
  · intro cuts
    rw [tokenize, cuts.tokensOnto_eq, List.reverse_nil, List.nil_append]
  · rintro rfl
    obtain ⟨tokens, isRead, cuts⟩ := classifier.exists_cuts [] 0 text.toList
    rw [tokenize, isRead]
    exact cuts

theorem Cuts.charsOf_eq (cuts : classifier.Cuts start chars tokens) :
    Token.charsOf tokens = chars := by
  induction cuts with
  | done start => rfl
  | identifier _ _ _ _ ih => simpa [Token.charsOf] using ih
  | other _ _ ih => simpa [Token.charsOf] using ih

theorem Cuts.adjoin (cuts : classifier.Cuts start chars tokens) :
    Token.Adjoin start (start + Token.width chars) tokens := by
  induction cuts with
  | done start => rfl
  | @identifier start char body rest tokens _ _ _ _ ih =>
    rw [Token.adjoin_ofChars_cons, Token.width_append, ← Nat.add_assoc]
    exact ih
  | @other start char rest tokens _ _ ih =>
    rw [Token.adjoin_ofChars_cons, Token.width_cons char rest, ← Nat.add_assoc]
    exact ih

theorem Cuts.fits (cuts : classifier.Cuts start chars tokens) :
    ∀ token ∈ tokens, classifier.Fits token := by
  induction cuts with
  | done start => exact List.forall_mem_nil _
  | @identifier start char body rest tokens begins continues _ _ ih =>
    exact List.forall_mem_cons.mpr
      ⟨⟨char, body, Token.toList_text_ofChars, begins, continues⟩, ih⟩
  | @other start char rest tokens begins _ ih =>
    exact List.forall_mem_cons.mpr ⟨⟨char, Token.toList_text_ofChars, begins⟩, ih⟩

theorem Cuts.longest (cuts : classifier.Cuts start chars tokens) :
    ∀ before token after, tokens = before ++ token :: after → token.kind = .identifier →
      classifier.Stops (Token.charsOf after) := by
  induction cuts with
  | done start =>
    intro before token after split
    simp at split
  | @identifier start char body rest tokens begins continues stops others ih =>
    intro before token after split isIdentifier
    cases before with
    | nil =>
      obtain ⟨rfl, rfl⟩ := List.cons.inj split
      rw [others.charsOf_eq]
      exact stops
    | cons earlier before => exact ih before token after (List.cons.inj split).2 isIdentifier
  | @other start char rest tokens begins others ih =>
    intro before token after split isIdentifier
    cases before with
    | nil =>
      obtain ⟨rfl, rfl⟩ := List.cons.inj split
      cases isIdentifier
    | cons earlier before => exact ih before token after (List.cons.inj split).2 isIdentifier

/-- Tokens that stand side by side, fit their kinds and are longest are a cut of their characters. -/
theorem cuts_charsOf (adjoin : Token.Adjoin start last tokens)
    (fits : ∀ token ∈ tokens, classifier.Fits token)
    (longest : ∀ before token after, tokens = before ++ token :: after → token.kind = .identifier →
      classifier.Stops (Token.charsOf after)) :
    classifier.Cuts start (Token.charsOf tokens) tokens := by
  induction tokens generalizing start with
  | nil => exact .done start
  | cons token tokens ih =>
    obtain ⟨begin_eq, end_eq, othersAdjoin⟩ := adjoin
    obtain ⟨tokenFits, othersFit⟩ := List.forall_mem_cons.mp fits
    have othersLongest : ∀ before next after, tokens = before ++ next :: after →
        next.kind = .identifier → classifier.Stops (Token.charsOf after) := by
      intro before next after split
      exact longest (token :: before) next after (congrArg (token :: ·) split)
    have others := ih othersAdjoin othersFit othersLongest
    cases isKind : token.kind with
    | identifier =>
      simp only [Fits, isKind] at tokenFits
      obtain ⟨char, body, chars_eq, begins, continues⟩ := tokenFits
      have token_eq := Token.eq_ofChars begin_eq end_eq chars_eq
      have stops := longest [] token tokens rfl isKind
      rw [isKind] at token_eq
      rw [token_eq, Token.stop_ofChars] at others
      have cuts := Cuts.identifier begins continues stops others
      rw [← token_eq] at cuts
      simpa [Token.charsOf, chars_eq] using cuts
    | other =>
      simp only [Fits, isKind] at tokenFits
      obtain ⟨char, chars_eq, begins⟩ := tokenFits
      have token_eq := Token.eq_ofChars begin_eq end_eq chars_eq
      rw [isKind] at token_eq
      rw [token_eq, Token.stop_ofChars] at others
      have cuts := Cuts.other begins others
      rw [← token_eq] at cuts
      simpa [Token.charsOf, chars_eq] using cuts

theorem partitions_iff_cuts :
    classifier.Partitions text tokens ↔ classifier.Cuts 0 text.toList tokens := by
  constructor
  · rintro ⟨joined, adjoin, fits, longest⟩
    simp only [Token.toList_join_text] at longest
    have cuts := cuts_charsOf adjoin fits longest
    rwa [← Token.toList_join_text, joined] at cuts
  · intro cuts
    refine ⟨?_, ?_, cuts.fits, ?_⟩
    · rw [← String.toList_inj, Token.toList_join_text, cuts.charsOf_eq]
    · rw [Token.utf8ByteSize_eq_width, ← Nat.zero_add (Token.width text.toList)]
      exact cuts.adjoin
    · simpa only [Token.toList_join_text] using cuts.longest

/-- What begins an identifier also continues one. -/
def Monotone (classifier : Classifier) : Prop :=
  ∀ char, classifier.begins char = true → classifier.continues char = true

theorem Checked.monotone (checked : classifier.Checked) : classifier.Monotone := fun _ starts =>
  isContinue_of_monotone (fun _ => checked.continuesAt_of_startsAt) starts

/-- Where an identifier stops, none begins. -/
theorem Cuts.kind_of_stops (cuts : classifier.Cuts start chars tokens)
    (monotone : classifier.Monotone) (stops : classifier.Stops chars) :
    ∀ token ∈ tokens.head?, token.kind = .other := by
  cases cuts with
  | done => simp
  | @identifier _ char body rest tokens begins _ _ _ =>
    have continues := monotone char begins
    rw [stops char rfl] at continues
    exact absurd continues Bool.false_ne_true
  | other begins others => simp

theorem Cuts.isChain_kinds (cuts : classifier.Cuts start chars tokens)
    (monotone : classifier.Monotone) :
    tokens.IsChain fun left right => ¬ (left.kind = .identifier ∧ right.kind = .identifier) := by
  induction cuts with
  | done start => exact List.isChain_nil
  | identifier _ _ stops others ih =>
    refine List.isChain_cons.mpr ⟨fun next isNext => ?_, ih⟩
    rintro ⟨_, nextKind⟩
    rw [others.kind_of_stops monotone stops next isNext] at nextKind
    cases nextKind
  | other _ _ ih =>
    refine List.isChain_cons.mpr ⟨fun next _ => ?_, ih⟩
    rintro ⟨isIdentifier, _⟩
    cases isIdentifier

end Classifier

/-- The tokens of a text partition it into longest identifiers and single other characters, no two
neighbours are identifiers, and no other tokens are such a partition. -/
theorem partitions_iff_eq_tokenize (text : String) :
    (∀ tokens, standard.Partitions text tokens ↔ tokens = tokenize text) ∧
      (tokenize text).IsChain fun left right =>
        ¬ (left.kind = .identifier ∧ right.kind = .identifier) := by
  constructor
  · intro tokens
    rw [Classifier.partitions_iff_cuts, Classifier.cuts_iff_tokenize_eq, eq_comm]
    rfl
  · have cuts : standard.Cuts 0 text.toList (tokenize text) :=
      Classifier.cuts_iff_tokenize_eq.mpr rfl
    exact cuts.isChain_kinds standard_checked.monotone

example : tokenize "\u00E92 \u00D7" =
    [⟨.identifier, 0, 3, "\u00E92"⟩, ⟨.other, 3, 4, " "⟩, ⟨.other, 4, 6, "\u00D7"⟩] := by
  decide +kernel

end UnicodeIdentifier
