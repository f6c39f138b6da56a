import UnicodeIdentifier.Proofs.Token

/-!
# Tokens of joined texts

Where two texts are joined, only the last identifier of the first can change: it takes in what stands
at the front of the second and continues it.  All other tokens are those of the two texts, the later
ones moved by the bytes in front of them.
-/

namespace UnicodeIdentifier

namespace Token

variable {kind : TokenKind} {start : Nat} {chars : List Char}

/-- The token so many bytes further on. -/
def shift (bytes : Nat) (token : Token) : Token :=
  { token with start := token.start + bytes, stop := token.stop + bytes }

/-- The token with more characters at its end. -/
def extend (token : Token) (more : String) : Token :=
  { token with stop := token.stop + more.utf8ByteSize, text := token.text ++ more }

@[simp]
theorem shift_ofChars (bytes : Nat) :
    (ofChars kind start chars).shift bytes = ofChars kind (start + bytes) chars := by
  simp [ofChars, shift, Nat.add_right_comm]

@[simp]
theorem extend_ofChars (more : String) :
    (ofChars kind start chars).extend more = ofChars kind start (chars ++ more.toList) := by
  simp [ofChars, extend, utf8ByteSize_eq_width, Nat.add_assoc]

end Token

namespace Classifier

variable {classifier : Classifier} {start : Nat} {chars rest front back : List Char}
  {tokens others before : List Token} {last : Token} {left right more : String}

theorem Cuts.eq_nil_iff (cuts : classifier.Cuts start chars tokens) : chars = [] ↔ tokens = [] := by
  cases cuts with
  | done => simp
  | identifier => simp
  | other => simp

theorem Stops.append (stops : classifier.Stops rest) (then_stops : rest = [] → classifier.Stops back) :
    classifier.Stops (rest ++ back) := by
  cases rest with
  | nil => exact then_stops rfl
  | cons char rest => exact stops

theorem Cuts.shift (cuts : classifier.Cuts start chars tokens) (bytes : Nat) :
    classifier.Cuts (start + bytes) chars (tokens.map (Token.shift bytes)) := by
  induction cuts with
  | done start => exact .done (start + bytes)
  | identifier begins continues stops _ ih =>
    rw [List.map_cons, Token.shift_ofChars]
    rw [Nat.add_right_comm] at ih
    exact .identifier begins continues stops ih
  | other begins _ ih =>
    rw [List.map_cons, Token.shift_ofChars]
    rw [Nat.add_right_comm] at ih
    exact .other begins ih

/-- The last of the tokens is an identifier, which may go on. -/
def IsOpen (tokens : List Token) : Prop :=
  ∃ last, tokens.getLast? = some last ∧ last.kind = .identifier

theorem IsOpen.cons (isOpen : IsOpen tokens) (token : Token) : IsOpen (token :: tokens) := by
  obtain ⟨last, isLast, isIdentifier⟩ := isOpen
  exact ⟨last, by rw [List.getLast?_cons, isLast, Option.getD_some], isIdentifier⟩

/-- Cuts can be put one after another, unless an identifier is left open and goes on. -/
theorem Cuts.append (cuts : classifier.Cuts start front tokens)
    (following : classifier.Cuts (start + Token.width front) back others)
    (stops : IsOpen tokens → classifier.Stops back) :
    classifier.Cuts start (front ++ back) (tokens ++ others) := by
  induction cuts with
  | done start => exact following
  | @identifier start char body rest tokens begins continues restStops inner ih =>
    rw [Token.width_append, ← Nat.add_assoc] at following
    rw [List.append_assoc]
    refine .identifier begins continues ?_ (ih following fun isOpen => stops (isOpen.cons _))
    refine restStops.append fun noRest => stops ?_
    rw [inner.eq_nil_iff] at noRest
    rw [noRest]
    exact ⟨_, rfl, rfl⟩
  | @other start char rest tokens begins inner ih =>
    rw [Token.width_cons char rest, ← Nat.add_assoc] at following
    exact .other begins (ih following fun isOpen => stops (isOpen.cons _))

/-- An open identifier takes in the characters that continue it. -/
theorem Cuts.extend (cuts : classifier.Cuts start chars (before ++ [last]))
    (isIdentifier : last.kind = .identifier)
    (moreContinues : ∀ char ∈ more.toList, classifier.continues char = true) :
    classifier.Cuts start (chars ++ more.toList) (before ++ [last.extend more]) := by
  generalize isSplit : before ++ [last] = tokens at cuts
  induction cuts generalizing before with
  | done start => simp at isSplit
  | @identifier start char body rest tokens begins continues stops inner ih =>
    rw [List.append_assoc]
    cases before with
    | nil =>
      obtain ⟨rfl, rfl⟩ := List.cons.inj isSplit
      obtain rfl := inner.eq_nil_iff.mpr rfl
      have allContinue : ∀ next ∈ body ++ more.toList, classifier.continues next = true :=
        List.forall_mem_append.mpr ⟨continues, moreContinues⟩
      have extended : classifier.Cuts start (char :: (body ++ more.toList) ++ [])
          [Token.ofChars .identifier start (char :: (body ++ more.toList))] :=
        .identifier begins allContinue stops (.done _)
      rw [Token.extend_ofChars]
      simpa using extended
    | cons token before =>
      obtain ⟨rfl, rfl⟩ := List.cons.inj isSplit
      refine .identifier begins continues (stops.append fun noRest => ?_) (ih rfl)
      rw [inner.eq_nil_iff] at noRest
      exact absurd noRest (List.append_ne_nil_of_right_ne_nil _ (List.cons_ne_nil _ _))
  | @other start char rest tokens begins inner ih =>
    cases before with
    | nil =>
      obtain ⟨rfl, rfl⟩ := List.cons.inj isSplit
      cases isIdentifier
    | cons token before =>
      obtain ⟨rfl, rfl⟩ := List.cons.inj isSplit
      exact .other begins (ih rfl)

theorem cuts_tokenize (classifier : Classifier) (text : String) :
    classifier.Cuts 0 text.toList (classifier.tokenize text) :=
  cuts_iff_tokenize_eq.mpr rfl

/-- No token has characters of both texts when they are joined: one of them is empty, the first ends
with a character that is no part of an identifier, or the second begins with one that continues
none. -/
def Separate (classifier : Classifier) (left right : String) : Prop :=
  left = "" ∨ right = "" ∨
    (∃ last, (classifier.tokenize left).getLast? = some last ∧ last.kind = .other) ∨
    ∃ char, right.toList.head? = some char ∧ classifier.continues char = false

/-- What stands at the front of the text and continues an identifier. -/
def continuation (classifier : Classifier) (text : String) : String :=
  String.ofList (text.toList.takeWhile classifier.continues)

/-- The text without its continuation. -/
def withoutContinuation (classifier : Classifier) (text : String) : String :=
  String.ofList (text.toList.dropWhile classifier.continues)

theorem continues_of_mem_continuation :
    ∀ char ∈ (classifier.continuation right).toList, classifier.continues char = true := by
  intro char member
  rw [continuation, String.toList_ofList] at member
  exact List.mem_takeWhile_imp member

theorem stops_withoutContinuation :
    classifier.Stops (classifier.withoutContinuation right).toList := by
  rw [withoutContinuation, String.toList_ofList]
  exact stops_dropWhile

theorem continuation_append (classifier : Classifier) (text : String) :
    classifier.continuation text ++ classifier.withoutContinuation text = text := by
  rw [continuation, withoutContinuation, ← String.ofList_append, List.takeWhile_append_dropWhile,
    String.ofList_toList]

theorem exists_last_of_not_separate (joined : ¬ classifier.Separate left right) :
    ∃ before last, classifier.tokenize left = before ++ [last] ∧ last.kind = .identifier := by
  simp only [Separate, not_or, not_exists, not_and] at joined
  obtain ⟨leftNonempty, _, noOther, _⟩ := joined
  have someToken : classifier.tokenize left ≠ [] := by
    intro noToken
    rw [← (classifier.cuts_tokenize left).eq_nil_iff, String.toList_eq_nil_iff] at noToken
    exact leftNonempty noToken
  obtain ⟨before, last, isLast⟩ := (List.eq_nil_or_concat' _).resolve_left someToken
  refine ⟨before, last, isLast, ?_⟩
  have notOther := noOther last (by rw [isLast, List.getLast?_concat])
  cases isKind : last.kind with
  | identifier => rfl
  | other => exact absurd isKind notOther

theorem Separate.stops (separate : classifier.Separate left right)
    (isOpen : IsOpen (classifier.tokenize left)) : classifier.Stops right.toList := by
  obtain ⟨last, isLast, isIdentifier⟩ := isOpen
  rcases separate with rfl | rfl | ⟨other, isOther, otherKind⟩ | ⟨char, isFirst, stops⟩
  · have noToken := (classifier.cuts_tokenize "").eq_nil_iff.mp rfl
    rw [noToken] at isLast
    cases isLast
  · intro char isFirst
    cases isFirst
  · rw [isLast, Option.some.injEq] at isOther
    rw [← isOther, isIdentifier] at otherKind
    cases otherKind
  · intro next isNext
    rw [isFirst, Option.some.injEq] at isNext
    rw [← isNext, stops]

/-- Separate texts keep their tokens. -/
theorem tokenize_append_of_separate (separate : classifier.Separate left right) :
    classifier.tokenize (left ++ right) =
      classifier.tokenize left ++ (classifier.tokenize right).map (Token.shift left.utf8ByteSize) := by
  rw [← cuts_iff_tokenize_eq, String.toList_append]
  refine (classifier.cuts_tokenize left).append ?_ separate.stops
  rw [← Token.utf8ByteSize_eq_width]
  exact (classifier.cuts_tokenize right).shift left.utf8ByteSize

/-- An identifier at the end of the first text takes in the continuation of the second. -/
theorem tokenize_append_of_last (isLast : classifier.tokenize left = before ++ [last])
    (isIdentifier : last.kind = .identifier) :
    classifier.tokenize (left ++ right) =
      before ++ last.extend (classifier.continuation right) ::
        (classifier.tokenize (classifier.withoutContinuation right)).map
          (Token.shift (left ++ classifier.continuation right).utf8ByteSize) := by
  have leftCuts := classifier.cuts_tokenize left
  rw [isLast] at leftCuts
  have extended := leftCuts.extend isIdentifier (@continues_of_mem_continuation _ right)
  have restCuts := (classifier.cuts_tokenize (classifier.withoutContinuation right)).shift
    (left ++ classifier.continuation right).utf8ByteSize
  rw [Token.utf8ByteSize_eq_width, String.toList_append] at restCuts
  have whole := extended.append restCuts fun _ => stops_withoutContinuation
  rw [← String.toList_append, ← String.toList_append, String.append_assoc, continuation_append,
    cuts_iff_tokenize_eq] at whole
  rw [whole, Token.utf8ByteSize_eq_width, String.toList_append, List.append_assoc,
    List.singleton_append]

end Classifier

/-- The tokens of separate texts are the tokens of the joined text, the later ones moved by the bytes
of the first text.  Where the texts are not separate, the last token of the first is an identifier,
which takes in the continuation of the second; the tokens of what is left are moved by the bytes in
front of it. -/
theorem tokenize_append (left right : String) :
    (standard.Separate left right → tokenize (left ++ right) =
        tokenize left ++ (tokenize right).map (Token.shift left.utf8ByteSize)) ∧
      (¬ standard.Separate left right → ∃ before last, tokenize left = before ++ [last] ∧
        last.kind = .identifier ∧
        tokenize (left ++ right) = before ++ last.extend (standard.continuation right) ::
          (tokenize (standard.withoutContinuation right)).map
            (Token.shift (left ++ standard.continuation right).utf8ByteSize)) := by
  refine ⟨Classifier.tokenize_append_of_separate, fun joined => ?_⟩
  obtain ⟨before, last, isLast, isIdentifier⟩ := Classifier.exists_last_of_not_separate joined
  exact ⟨before, last, isLast, isIdentifier,
    Classifier.tokenize_append_of_last isLast isIdentifier⟩

theorem tokenize_letter : tokenize "e" = [⟨.identifier, 0, 1, "e"⟩] := by
  decide +kernel

theorem not_separate_accent : ¬ standard.Separate "e" "\u0301+" := by
  rintro (empty | empty | ⟨last, isLast, isOther⟩ | ⟨char, isFirst, stops⟩)
  · exact absurd empty (by decide)
  · exact absurd empty (by decide)
  · rw [show standard.tokenize "e" = _ from tokenize_letter] at isLast
    cases isLast
    cases isOther
  · obtain rfl : '\u0301' = char := Option.some.inj isFirst
    exact absurd stops (by decide +kernel)

/-- An accent begins no identifier, but it joins the letter at the end of the first text. -/
theorem tokenize_append_accent : ¬ standard.Separate "e" "\u0301+" ∧
    tokenize ("e" ++ "\u0301+") = [⟨.identifier, 0, 3, "e\u0301"⟩, ⟨.other, 3, 4, "+"⟩] := by
  refine ⟨not_separate_accent, ?_⟩
  obtain ⟨before, last, isLast, _, joined⟩ :=
    (tokenize_append "e" "\u0301+").2 not_separate_accent
  rw [tokenize_letter, ← List.nil_append [_], List.append_singleton_inj] at isLast
  obtain ⟨rfl, rfl⟩ := isLast
  rw [joined]
  decide +kernel

end UnicodeIdentifier
