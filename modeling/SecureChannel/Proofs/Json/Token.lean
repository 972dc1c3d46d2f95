import Mathlib.Data.List.Chain
import SecureChannel.Proofs.Json.Literal

/-! Tokens are found again in their text. Nothing has to stand between two of them unless both are
words: literals of strings and punctuation end where they end. -/
namespace SecureChannel.Json.Token

variable {t : Token} {seen body word rest : List Char}

/-- Tokens that last until something ends them. -/
def isWord : Token → Bool
  | .null | .bool _ | .number _ => true
  | _ => false

/-- The fraction and exponent of a number are what they may be. -/
def Legible : Token → Prop
  | .number n => Number.isTail n.tail = true
  | _ => True

/-- Characters that end a word. -/
def isStop (c : Char) : Bool := isBlank c || c == '"' || (punctuation? c).isSome

section Steps

variable (c : Char) (seen rest : List Char)

theorem scanFrom_between_cons :
    scanFrom .between (c :: rest) = (scanFrom (start c).2 rest).map ((start c).1 ++ ·) := by
  show (scanFrom (start c).2 rest >>= fun tokens => some ((start c).1 ++ tokens)) = _
  cases scanFrom (start c).2 rest <;> rfl

theorem scanFrom_word_nil : scanFrom (.word seen) [] = (ofWord? seen.reverse).map ([·]) := by
  show (ofWord? seen.reverse >>= fun t => some [t]) = _
  cases ofWord? seen.reverse <;> rfl

/-- What ends a word is read as if nothing had been open. -/
theorem scanFrom_word_cons : scanFrom (.word seen) (c :: rest) =
    if isStop c then
      (ofWord? seen.reverse).bind fun t => (scanFrom .between (c :: rest)).map (t :: ·)
    else scanFrom (.word (c :: seen)) rest := by
  show (if isStop c then
      (ofWord? seen.reverse).bind fun t =>
        scanFrom (start c).2 rest >>= fun tokens => some (t :: (start c).1 ++ tokens)
    else scanFrom (.word (c :: seen)) rest) = _
  rw [scanFrom_between_cons]
  cases scanFrom (start c).2 rest <;> rfl

theorem scanFrom_literal_cons : scanFrom (.literal seen) (c :: rest) =
    if c = '"' then
      (ofLiteral? seen.reverse).bind fun t => (scanFrom .between rest).map (t :: ·)
    else if c = '\\' then scanFrom (.escaped (c :: seen)) rest
    else if c.toNat < 0x20 then none
    else scanFrom (.literal (c :: seen)) rest := by
  show (if c = '"' then
      (ofLiteral? seen.reverse).bind fun t =>
        scanFrom .between rest >>= fun tokens => some (t :: tokens)
    else _) = _
  cases scanFrom .between rest <;> rfl

theorem scanFrom_escaped_cons : scanFrom (.escaped seen) (c :: rest) =
    if c.toNat < 0x20 then none else scanFrom (.literal (c :: seen)) rest := rfl

end Steps

section Literals

/-- Inside a literal the scanner goes over the characters and stays inside. -/
def Passed (body : List Char) : Prop :=
  ∀ seen rest, scanFrom (.literal seen) (body ++ rest) = scanFrom (.literal (body.reverse ++ seen)) rest

theorem passed_nil : Passed [] := fun _ _ => rfl

theorem Passed.append {more : List Char} (h : Passed body) (hmore : Passed more) :
    Passed (body ++ more) := by
  intro seen rest
  rw [List.append_assoc, h, hmore, List.reverse_append, List.append_assoc]

theorem passed_char {c : Char} (hquote : c ≠ '"') (hslash : c ≠ '\\') (hc : ¬ c.toNat < 0x20) :
    Passed [c] := by
  intro seen rest
  show scanFrom (.literal seen) (c :: rest) = _
  rw [scanFrom_literal_cons, if_neg hquote, if_neg hslash, if_neg hc]
  rfl

theorem passed_escape {e : Char} (he : ¬ e.toNat < 0x20) : Passed ['\\', e] := by
  intro seen rest
  show scanFrom (.literal seen) ('\\' :: e :: rest) = _
  rw [scanFrom_literal_cons, if_neg (by decide), if_pos rfl, scanFrom_escaped_cons, if_neg he]
  rfl

theorem passed_hexDigit {n : Nat} (hn : n < 16) : Passed [Bytes.hexDigit n] := by
  have hdigits : ∀ n < 16, Bytes.hexDigit n ≠ '"' ∧ Bytes.hexDigit n ≠ '\\' ∧
      ¬ (Bytes.hexDigit n).toNat < 0x20 := by decide
  obtain ⟨hquote, hslash, hc⟩ := hdigits n hn
  exact passed_char hquote hslash hc

theorem passed_escapeChar (c : Char) : Passed (Text.escapeChar c) := by
  rcases Text.escapeChar_cases c with ⟨e, hc, -, he⟩ | ⟨hsmall, hc⟩ | ⟨hquote, hslash, hlarge, hc⟩
  · rw [hc]
    exact passed_escape he
  · rw [hc]
    have hzero : Passed ['0'] := passed_char (by decide) (by decide) (by decide)
    have hdigits := (passed_hexDigit (n := c.toNat / 16) (by omega)).append
      (passed_hexDigit (n := c.toNat % 16) (by omega))
    exact (passed_escape (by decide)).append (hzero.append (hzero.append hdigits))
  · rw [hc]
    exact passed_char hquote hslash hlarge

theorem passed_flatMap_escapeChar (text : List Char) : Passed (text.flatMap Text.escapeChar) := by
  induction text with
  | nil => exact passed_nil
  | cons c text ih =>
    rw [List.flatMap_cons]
    exact (passed_escapeChar c).append ih

/-- The body of a literal is passed, and is read as the text it was written for. -/
theorem exists_body (text : Text) : ∃ body, text.toChars = '"' :: (body ++ ['"']) ∧ Passed body ∧
    ofLiteral? body = some (.string text) := by
  cases text with
  | none =>
    refine ⟨['\\', 'u', 'd', '8', '0', '0'], rfl, ?_, by decide +kernel⟩
    have hdigits : ∀ n < 16, Passed [Bytes.hexDigit n] := fun n => passed_hexDigit
    exact (passed_escape (by decide)).append ((hdigits 13 (by decide)).append
      ((hdigits 8 (by decide)).append ((hdigits 0 (by decide)).append (hdigits 0 (by decide)))))
  | some text =>
    refine ⟨text.toList.flatMap Text.escapeChar, rfl, passed_flatMap_escapeChar _, ?_⟩
    unfold ofLiteral?
    rw [Text.units?_flatMap_escapeChar]
    show some (Token.string ((Text.chars? (text.toList.map Char.toNat)).map String.ofList)) = _
    rw [Text.chars?_map_toNat, Option.map_some, String.ofList_toList]

theorem scanFrom_string (text : Text) (rest : List Char) :
    scanFrom .between (text.toChars ++ rest) =
      (scanFrom .between rest).map (.string text :: ·) := by
  obtain ⟨body, hchars, hpassed, hread⟩ := exists_body text
  have hstart : start '"' = ([], .literal []) := rfl
  rw [hchars, List.cons_append, List.append_assoc, List.singleton_append, scanFrom_between_cons,
    hstart, hpassed, scanFrom_literal_cons, if_pos rfl, List.append_nil, List.reverse_reverse, hread]
  cases scanFrom .between rest <;> rfl

end Literals

section Words

/-- A word goes on to the next character that ends it. -/
theorem scanFrom_word_append (hword : ∀ c ∈ word, isStop c = false) :
    scanFrom (.word seen) (word ++ rest) = scanFrom (.word (word.reverse ++ seen)) rest := by
  induction word generalizing seen with
  | nil => rfl
  | cons c word ih =>
    obtain ⟨hc, hmore⟩ := List.forall_mem_cons.mp hword
    rw [List.cons_append, scanFrom_word_cons, hc, if_neg (by decide), ih hmore, List.reverse_cons,
      List.append_assoc]
    rfl

theorem scanFrom_word_end (hrest : ∀ c ∈ rest.head?, isStop c = true) :
    scanFrom (.word seen) rest =
      (ofWord? seen.reverse).bind fun t => (scanFrom .between rest).map (t :: ·) := by
  cases rest with
  | nil =>
    rw [scanFrom_word_nil]
    cases ofWord? seen.reverse <;> rfl
  | cons c rest => rw [scanFrom_word_cons, if_pos (hrest c rfl)]

theorem start_of_not_isStop {c : Char} (hc : isStop c = false) : start c = ([], .word [c]) := by
  unfold isStop at hc
  simp only [Bool.or_eq_false_iff, beq_eq_false_iff_ne, Option.isSome_eq_false_iff,
    Option.isNone_iff_eq_none] at hc
  unfold start
  rw [if_neg (by simp [hc.1.1]), if_neg hc.1.2, hc.2]

theorem scanFrom_word (hne : word ≠ []) (hword : ∀ c ∈ word, isStop c = false)
    (hrest : ∀ c ∈ rest.head?, isStop c = true) (hread : ofWord? word = some t) :
    scanFrom .between (word ++ rest) = (scanFrom .between rest).map (t :: ·) := by
  obtain ⟨c, more, rfl⟩ := List.exists_cons_of_ne_nil hne
  obtain ⟨hc, hmore⟩ := List.forall_mem_cons.mp hword
  rw [List.cons_append, scanFrom_between_cons, start_of_not_isStop hc, scanFrom_word_append hmore,
    scanFrom_word_end hrest, List.reverse_append, List.reverse_reverse, List.reverse_singleton,
    List.singleton_append, hread]
  cases scanFrom .between rest <;> rfl

theorem isStop_of_number {n : Number} (h : Number.isTail n.tail = true) :
    ∀ c ∈ n.toChars, isStop c = false := by
  intro c hc
  rcases Number.of_mem_toChars h hc with hdigit | hmark
  · have hdigits : ∀ n < 128, (Char.ofNat n).isDigit = true → isStop (Char.ofNat n) = false := by
      decide +kernel
    have hascii : c.toNat < 128 := by
      simp only [Char.isDigit, Bool.and_eq_true, decide_eq_true_eq] at hdigit
      exact Nat.lt_of_le_of_lt hdigit.2 (by decide)
    have hstop := hdigits c.toNat hascii
    rw [Char.ofNat_toNat] at hstop
    exact hstop hdigit
  · have hmarks : Number.marks.all (fun c => !isStop c) = true := by decide
    simpa using List.all_eq_true.mp hmarks c hmark

theorem ofWord?_number {n : Number} (h : Number.isTail n.tail = true) :
    ofWord? n.toChars = some (.number n) := by
  have hread := Number.ofChars?_toChars h
  have hword : ∀ word, Number.ofChars? word = none → n.toChars ≠ word := by
    rintro word hnone rfl
    rw [hread] at hnone
    cases hnone
  unfold ofWord?
  rw [if_neg (hword _ (by decide)), if_neg (hword _ (by decide)), if_neg (hword _ (by decide)), hread]
  rfl

end Words

theorem scanFrom_toChars (ht : t.Legible)
    (hrest : t.isWord = true → ∀ c ∈ rest.head?, isStop c = true) :
    scanFrom .between (t.toChars ++ rest) = (scanFrom .between rest).map (t :: ·) := by
  have hword : ∀ word, word ≠ [] → word.any isStop = false → ofWord? word = some t →
      t.isWord = true → scanFrom .between (word ++ rest) = (scanFrom .between rest).map (t :: ·) :=
    fun word hne hchars hread hisWord =>
      scanFrom_word hne (by simpa using hchars) (hrest hisWord) hread
  cases t with
  | null => exact hword ['n', 'u', 'l', 'l'] (by decide) (by decide) rfl rfl
  | bool b =>
    cases b with
    | true => exact hword ['t', 'r', 'u', 'e'] (by decide) (by decide) rfl rfl
    | false => exact hword ['f', 'a', 'l', 's', 'e'] (by decide) (by decide) rfl rfl
  | number n =>
    have hne : n.toChars ≠ [] := by simp [Number.toChars, Nat.toDigits_ne_nil]
    exact scanFrom_word hne (isStop_of_number ht) (hrest rfl) (ofWord?_number ht)
  | string text => exact scanFrom_string text rest
  | beginArray | endArray | beginObject | endObject | colon | comma =>
    exact scanFrom_between_cons _ rest

theorem isStop_of_not_isWord (ht : t.isWord = false) : ∀ c ∈ t.toChars.head?, isStop c = true := by
  cases t with
  | null | bool _ | number _ => cases ht
  | string text =>
    obtain ⟨body, hchars, -⟩ := exists_body text
    show ∀ c ∈ text.toChars.head?, isStop c = true
    rw [hchars]
    rintro c ⟨⟩
    decide
  | beginArray | endArray | beginObject | endObject | colon | comma =>
    rintro c ⟨⟩
    decide

theorem toChars_ne_nil (t : Token) : t.toChars ≠ [] := by
  cases t with
  | bool b => cases b <;> exact List.cons_ne_nil _ _
  | number n => simp [toChars, Number.toChars, Nat.toDigits_ne_nil]
  | string text =>
    obtain ⟨body, hchars, -⟩ := exists_body text
    show text.toChars ≠ []
    rw [hchars]
    exact List.cons_ne_nil _ _
  | _ => exact List.cons_ne_nil _ _

/-- No word stands right behind a word. -/
def Parted (tokens : List Token) : Prop :=
  tokens.IsChain fun t u => t.isWord = true → u.isWord = false

/-- The text of tokens is cut where they meet. -/
theorem scan?_flatMap_toChars {tokens : List Token} (hparted : Parted tokens)
    (hlegible : ∀ t ∈ tokens, t.Legible) : scan? (tokens.flatMap toChars) = some tokens := by
  unfold scan?
  induction tokens with
  | nil => rfl
  | cons t tokens ih =>
    obtain ⟨ht, hmore⟩ := List.forall_mem_cons.mp hlegible
    have hstop : t.isWord = true → ∀ c ∈ (tokens.flatMap toChars).head?, isStop c = true := by
      intro hword
      cases tokens with
      | nil => nofun
      | cons u tokens =>
        have hu : u.isWord = false := hparted.rel hword
        obtain ⟨c, chars, hchars⟩ := List.exists_cons_of_ne_nil u.toChars_ne_nil
        have hc := isStop_of_not_isWord hu
        rw [hchars] at hc
        rw [List.flatMap_cons, hchars]
        exact hc
    rw [List.flatMap_cons, scanFrom_toChars ht hstop, ih hparted.of_cons hmore]
    rfl

section Legibility

variable {c : Char} {mode : Mode} {text chars : List Char} {tokens : List Token}

theorem legible_of_start : ∀ t ∈ (start c).1, t.Legible := by
  have hpunctuation : ∀ t, punctuation? c = some t → t.Legible := by
    intro t ht
    unfold punctuation? at ht
    split at ht <;> cases ht <;> trivial
  unfold start
  split
  · nofun
  split
  · nofun
  split
  · rename_i t ht
    simpa using hpunctuation t ht
  · nofun

theorem legible_of_ofWord? (h : ofWord? chars = some t) : t.Legible := by
  unfold ofWord? at h
  split at h
  · cases h
    trivial
  split at h
  · cases h
    trivial
  split at h
  · cases h
    trivial
  · obtain ⟨n, hn, rfl⟩ := Option.map_eq_some_iff.mp h
    exact Number.isTail_of_ofChars? hn

theorem legible_of_ofLiteral? (h : ofLiteral? chars = some t) : t.Legible := by
  unfold ofLiteral? at h
  obtain ⟨units, -, hunits⟩ := Option.bind_eq_some_iff.mp h
  obtain rfl := Option.some.inj hunits
  trivial

/-- What the scanner finds is legible. -/
theorem legible_of_scanFrom (h : scanFrom mode text = some tokens) : ∀ t ∈ tokens, t.Legible := by
  fun_induction scanFrom mode text generalizing tokens with
  | case1 =>
    obtain rfl := Option.some.inj h
    nofun
  | case2 seen =>
    obtain ⟨t, ht, hone⟩ := Option.bind_eq_some_iff.mp h
    obtain rfl := Option.some.inj hone
    simpa using legible_of_ofWord? ht
  | case5 c rest started mode hstart ih =>
    have hstarted := legible_of_start (c := c)
    obtain ⟨more, hmore, hjoin⟩ := Option.bind_eq_some_iff.mp h
    obtain rfl := Option.some.inj hjoin
    rw [hstart] at hstarted
    exact List.forall_mem_append.mpr ⟨hstarted, ih hmore⟩
  | case6 seen c rest hstop ih =>
    obtain ⟨t, ht, hrest⟩ := Option.bind_eq_some_iff.mp h
    have hstarted : (scanFrom (start c).2 rest >>= fun more => some (t :: (start c).1 ++ more)) =
        some tokens := hrest
    obtain ⟨more, hmore, hjoin⟩ := Option.bind_eq_some_iff.mp hstarted
    obtain rfl := Option.some.inj hjoin
    exact List.forall_mem_cons.mpr ⟨legible_of_ofWord? ht,
      List.forall_mem_append.mpr ⟨legible_of_start, ih _ hmore⟩⟩
  | case8 seen rest ih =>
    obtain ⟨t, ht, hrest⟩ := Option.bind_eq_some_iff.mp h
    obtain ⟨more, hmore, hjoin⟩ := Option.bind_eq_some_iff.mp hrest
    obtain rfl := Option.some.inj hjoin
    exact List.forall_mem_cons.mpr ⟨legible_of_ofLiteral? ht, ih hmore⟩
  | case7 _ _ _ _ ih | case9 _ _ _ ih | case11 _ _ _ _ _ _ ih | case13 _ _ _ _ ih => exact ih h
  | case3 | case4 | case10 | case12 => cases h

theorem legible_of_scan? (h : scan? text = some tokens) : ∀ t ∈ tokens, t.Legible :=
  legible_of_scanFrom h

end Legibility

end SecureChannel.Json.Token
