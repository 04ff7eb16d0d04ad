import Mathlib
import LinkBench.CommandLine.StaticBase
import LinkBench.Tool.Toolchain

/-!
# The texts of a static base

Which texts name the address of a static link, and which address: `Spells` says it by what such a text
looks like, `parse_grammar` that the reader accepts just these. The reader keeps the value of the digits
read so far below the limit; more digits never make it smaller, so only the whole number counts. The
linker is given a text of this kind, which therefore names the same address again.
-/

namespace LinkBench.StaticBase

/-! ### What a text looks like -/

/-- A decimal digit, or a letter of either case for the values from ten on, as far as the radix goes. -/
def Digit (radix : Radix) (c : Char) (value : Nat) : Prop :=
  value < radix.base ∧ (c = value.digitChar ∨ c = value.digitChar.toUpper)

/-- One or more digits, of which the first counts most, denote a number. -/
def Denotes (radix : Radix) (digits : List Char) (n : Nat) : Prop :=
  digits ≠ [] ∧ ∃ values, List.Forall₂ (Digit radix) digits values ∧
    n = Nat.ofDigits radix.base values.reverse

/-- Digits with at most one plus sign in front. -/
def Signed (radix : Radix) (cs : List Char) (n : Nat) : Prop :=
  ∃ digits, (cs = digits ∨ cs = '+' :: digits) ∧ Denotes radix digits n

/-- A hexadecimal number behind its mark or a decimal one. -/
def Marked (cs : List Char) (n : Nat) : Prop :=
  (∃ digits, (cs = '0' :: 'x' :: digits ∨ cs = '0' :: 'X' :: digits) ∧
    Signed .hexadecimal digits n) ∨ Signed .decimal cs n

/-- A marked number with white space around it. -/
def Spells (cs : List Char) (n : Nat) : Prop :=
  ∃ before numeral after, cs = before ++ numeral ++ after ∧
    (∀ c ∈ before, isWhiteSpace c = true) ∧ (∀ c ∈ after, isWhiteSpace c = true) ∧ Marked numeral n

variable {radix : Radix} {cs digits : List Char} {c : Char} {d n limit value : Nat}

/-! ### Digits -/

theorem one_lt_base (radix : Radix) : 1 < radix.base := by
  cases radix <;> decide

theorem base_le (radix : Radix) : radix.base ≤ 16 := by
  cases radix <;> decide

theorem digitValue?_digitChar (radix : Radix) : ∀ d < radix.base,
    Numeral.digitValue? radix.base d.digitChar = some d ∧
      Numeral.digitValue? radix.base d.digitChar.toUpper = some d := by
  cases radix <;> decide

theorem digitChar_eq : ∀ d < 16, d.digitChar = Char.ofNat (if d < 10 then 48 + d else 87 + d) ∧
    (10 ≤ d → d.digitChar.toUpper = Char.ofNat (55 + d)) := by
  decide

theorem digitValue?_eq_some_iff : Numeral.digitValue? radix.base c = some d ↔ Digit radix c d := by
  constructor
  · intro h
    obtain ⟨hvalue, hlt⟩ := Option.filter_eq_some_iff.1 h
    have hlt : d < radix.base := of_decide_eq_true hlt
    obtain ⟨hlower, hupper⟩ := digitChar_eq d (hlt.trans_le (base_le radix))
    have hc : Char.ofNat c.toNat = c := Char.ofNat_toNat c
    refine ⟨hlt, ?_⟩
    split_ifs at hvalue with hdigit hsmall hcapital
    · have hlow : 48 ≤ c.toNat := hdigit.1
      have hhigh : c.toNat ≤ 57 := hdigit.2
      have hsum : c.toNat - 48 = d := Option.some.inj hvalue
      left
      rw [hlower, if_pos (by omega), ← hsum, Nat.add_sub_cancel' hlow, hc]
    · have hlow : 97 ≤ c.toNat := hsmall.1
      have hsum : c.toNat - 97 + 10 = d := Option.some.inj hvalue
      left
      rw [hlower, if_neg (by omega), show 87 + d = c.toNat by omega, hc]
    · have hlow : 65 ≤ c.toNat := hcapital.1
      have hsum : c.toNat - 65 + 10 = d := Option.some.inj hvalue
      right
      rw [hupper (by omega), show 55 + d = c.toNat by omega, hc]
  · rintro ⟨hlt, rfl | rfl⟩
    · exact (digitValue?_digitChar radix d hlt).1
    · exact (digitValue?_digitChar radix d hlt).2

theorem Digit.unique {d' : Nat} (h : Digit radix c d) (h' : Digit radix c d') : d = d' :=
  Option.some.inj ((digitValue?_eq_some_iff.2 h).symm.trans (digitValue?_eq_some_iff.2 h'))

theorem not_digit_plus : ¬Digit radix '+' d := by
  rw [← digitValue?_eq_some_iff]
  cases radix <;> exact nofun

theorem not_digit_mark (h : c = 'x' ∨ c = 'X') : ¬Digit .decimal c d := by
  rw [← digitValue?_eq_some_iff]
  obtain rfl | rfl := h <;> exact nofun

theorem Digit.isWhiteSpace_eq (h : Digit radix c d) : isWhiteSpace c = false := by
  have hdigits : ∀ d < 16, isWhiteSpace d.digitChar = false ∧
      isWhiteSpace d.digitChar.toUpper = false := by decide
  obtain ⟨hlt, rfl | rfl⟩ := h
  · exact (hdigits d (hlt.trans_le (base_le radix))).1
  · exact (hdigits d (hlt.trans_le (base_le radix))).2

/-! ### Reading digits -/

theorem ofDigits_reverse (base : Nat) (values : List Nat) :
    Nat.ofDigits base values.reverse = values.foldl (fun n d => n * base + d) 0 := by
  rw [Nat.ofDigits_eq_foldr, List.foldr_reverse]
  congr 1
  funext n d
  simp only [Nat.cast_id]
  ring

/-- Further digits do not make a number smaller. -/
theorem le_foldl {base : Nat} (hbase : 0 < base) (values : List Nat) (value : Nat) :
    value ≤ values.foldl (fun n d => n * base + d) value := by
  induction values generalizing value with
  | nil => exact Nat.le_refl value
  | cons d rest ih =>
    calc value ≤ value * base := Nat.le_mul_of_pos_right value hbase
      _ ≤ value * base + d := Nat.le_add_right _ d
      _ ≤ _ := ih (value * base + d)

theorem readDigits_eq_ok_iff (hvalue : value < limit) :
    Numeral.readDigits radix.base limit value cs = .ok n ↔ n < limit ∧
      ∃ values, List.Forall₂ (Digit radix) cs values ∧
        n = values.foldl (fun n d => n * radix.base + d) value := by
  induction cs generalizing value with
  | nil =>
    constructor
    · intro h
      cases h
      exact ⟨hvalue, [], .nil, rfl⟩
    · rintro ⟨-, values, hvalues, rfl⟩
      cases hvalues
      rfl
  | cons c rest ih =>
    rw [Numeral.readDigits]
    cases hdigit : Numeral.digitValue? radix.base c with
    | none =>
      refine iff_of_false nofun ?_
      rintro ⟨-, values, hvalues, -⟩
      cases hvalues with
      | cons hfirst hrest =>
        rw [digitValue?_eq_some_iff.2 hfirst] at hdigit
        cases hdigit
    | some digit =>
      have hsome := digitValue?_eq_some_iff.1 hdigit
      by_cases hnext : value * radix.base + digit < limit
      · simp only [if_pos hnext]
        rw [ih hnext]
        constructor
        · rintro ⟨hlt, values, hvalues, rfl⟩
          exact ⟨hlt, digit :: values, .cons hsome hvalues, rfl⟩
        · rintro ⟨hlt, values, hvalues, rfl⟩
          cases hvalues with
          | cons hfirst hrest =>
            obtain rfl := hsome.unique hfirst
            exact ⟨hlt, _, hrest, rfl⟩
      · simp only [if_neg hnext]
        refine iff_of_false nofun ?_
        rintro ⟨hlt, values, hvalues, rfl⟩
        cases hvalues with
        | cons hfirst hrest =>
          obtain rfl := hsome.unique hfirst
          exact hnext ((le_foldl (Nat.zero_lt_of_lt (one_lt_base radix)) _ _).trans_lt hlt)

theorem readDigits_zero_eq_ok_iff (hlimit : 0 < limit) (hcs : cs ≠ []) :
    Numeral.readDigits radix.base limit 0 cs = .ok n ↔ n < limit ∧ Denotes radix cs n := by
  rw [readDigits_eq_ok_iff hlimit, Denotes]
  simp only [ofDigits_reverse, and_iff_right hcs]

theorem not_denotes_plus (rest : List Char) : ¬Denotes radix ('+' :: rest) n := by
  rintro ⟨-, values, hvalues, -⟩
  cases hvalues with
  | cons hfirst hrest => exact not_digit_plus hfirst

theorem read_eq_ok_iff (hlimit : 0 < limit) :
    Numeral.read radix.base limit cs = .ok n ↔ n < limit ∧ Signed radix cs n := by
  unfold Numeral.read
  split
  · refine iff_of_false nofun ?_
    rintro ⟨-, digits, rfl | h, hdenotes⟩
    · exact hdenotes.1 rfl
    · cases h
  · refine iff_of_false nofun ?_
    rintro ⟨-, digits, rfl | h, hdenotes⟩
    · exact not_denotes_plus [] hdenotes
    · cases h
      exact hdenotes.1 rfl
  · rename_i rest hrest
    rw [readDigits_zero_eq_ok_iff hlimit fun hnil => hrest (by rw [hnil])]
    refine and_congr_right fun _ => ⟨fun h => ⟨rest, .inr rfl, h⟩, ?_⟩
    rintro ⟨digits, rfl | h, hdenotes⟩
    · exact absurd hdenotes (not_denotes_plus rest)
    · cases h
      exact hdenotes
  · rename_i hnil hplus hsign
    rw [readDigits_zero_eq_ok_iff hlimit hnil]
    refine and_congr_right fun _ => ⟨fun h => ⟨cs, .inl rfl, h⟩, ?_⟩
    rintro ⟨digits, rfl | rfl, hdenotes⟩
    · exact hdenotes
    · exact absurd rfl (hsign digits)

/-! ### The mark and the white space -/

theorem not_signed_of_mark (h : cs = '0' :: 'x' :: digits ∨ cs = '0' :: 'X' :: digits) :
    ¬Signed .decimal cs n := by
  rintro ⟨numeral, hcs, -, values, hvalues, -⟩
  obtain ⟨mark, hmark, rfl⟩ : ∃ mark, (mark = 'x' ∨ mark = 'X') ∧ cs = '0' :: mark :: digits := by
    obtain rfl | rfl := h
    · exact ⟨'x', .inl rfl, rfl⟩
    · exact ⟨'X', .inr rfl, rfl⟩
  obtain rfl | hplus := hcs
  · cases hvalues with
    | cons _ hrest =>
      cases hrest with
      | cons hsecond _ => exact not_digit_mark hmark hsecond
  · cases hplus

theorem marked_iff (cs : List Char) (n : Nat) :
    Marked cs n ↔ Signed (splitRadix cs).1 (splitRadix cs).2 n := by
  unfold splitRadix
  split
  · rename_i digits
    constructor
    · rintro (⟨digits', h | h, hsigned⟩ | hsigned)
      · cases h
        exact hsigned
      · cases h
      · exact absurd hsigned (not_signed_of_mark (.inl rfl))
    · exact fun h => .inl ⟨digits, .inl rfl, h⟩
  · rename_i digits
    constructor
    · rintro (⟨digits', h | h, hsigned⟩ | hsigned)
      · cases h
      · cases h
        exact hsigned
      · exact absurd hsigned (not_signed_of_mark (.inr rfl))
    · exact fun h => .inl ⟨digits, .inr rfl, h⟩
  · rename_i hlower hupper
    constructor
    · rintro (⟨digits, h | h, -⟩ | hsigned)
      · exact absurd h (hlower digits)
      · exact absurd h (hupper digits)
      · exact hsigned
    · exact .inr

theorem Signed.not_white (h : Signed radix cs n) : ∀ c ∈ cs, isWhiteSpace c = false := by
  obtain ⟨digits, hcs, -, values, hvalues, -⟩ := h
  have hdigits : ∀ c ∈ digits, isWhiteSpace c = false :=
    ((List.forall₂_and_left _ _).1 (hvalues.imp fun c d h => ⟨h.isWhiteSpace_eq, h⟩)).1
  obtain rfl | rfl := hcs
  · exact hdigits
  · exact List.forall_mem_cons.2 ⟨by decide, hdigits⟩

theorem Marked.not_white (h : Marked cs n) : ∀ c ∈ cs, isWhiteSpace c = false := by
  obtain ⟨digits, rfl | rfl, hsigned⟩ | hsigned := h
  · exact List.forall_mem_cons.2 ⟨by decide, List.forall_mem_cons.2 ⟨by decide, hsigned.not_white⟩⟩
  · exact List.forall_mem_cons.2 ⟨by decide, List.forall_mem_cons.2 ⟨by decide, hsigned.not_white⟩⟩
  · exact hsigned.not_white

theorem exists_trim (cs : List Char) : ∃ before after, cs = before ++ trim cs ++ after ∧
    (∀ c ∈ before, isWhiteSpace c = true) ∧ ∀ c ∈ after, isWhiteSpace c = true := by
  refine ⟨cs.takeWhile isWhiteSpace,
    ((cs.dropWhile isWhiteSpace).reverse.takeWhile isWhiteSpace).reverse, ?_, ?_, ?_⟩
  · have hback := List.takeWhile_append_dropWhile (p := isWhiteSpace)
      (l := (cs.dropWhile isWhiteSpace).reverse)
    rw [trim, List.append_assoc, ← List.reverse_append, hback, List.reverse_reverse,
      List.takeWhile_append_dropWhile]
  · exact fun c hc => List.mem_takeWhile_imp hc
  · exact fun c hc => List.mem_takeWhile_imp (List.mem_reverse.1 hc)

theorem dropWhile_of_not_white (h : ∀ c ∈ cs, isWhiteSpace c = false) :
    cs.dropWhile isWhiteSpace = cs := by
  cases cs with
  | nil => rfl
  | cons c rest =>
    exact List.dropWhile_cons_of_neg (by rw [h c List.mem_cons_self]; exact Bool.false_ne_true)

theorem trim_append {before numeral after : List Char}
    (hbefore : ∀ c ∈ before, isWhiteSpace c = true) (hafter : ∀ c ∈ after, isWhiteSpace c = true)
    (hnumeral : ∀ c ∈ numeral, isWhiteSpace c = false) : trim (before ++ numeral ++ after) = numeral := by
  have hreverse : ∀ c ∈ after.reverse, isWhiteSpace c = true := fun c hc => hafter c (List.mem_reverse.1 hc)
  rw [trim, List.append_assoc, List.dropWhile_append_of_pos hbefore]
  cases numeral with
  | nil =>
    rw [List.nil_append, List.dropWhile_eq_nil_iff.2 hafter]
    rfl
  | cons c rest =>
    have hfirst : ¬isWhiteSpace c = true := by
      rw [hnumeral c List.mem_cons_self]
      exact Bool.false_ne_true
    rw [List.cons_append, List.dropWhile_cons_of_neg hfirst, ← List.cons_append, List.reverse_append,
      List.dropWhile_append_of_pos hreverse,
      dropWhile_of_not_white fun c hc => hnumeral c (List.mem_reverse.1 hc), List.reverse_reverse]

theorem spells_iff : Spells cs n ↔ Marked (trim cs) n := by
  constructor
  · rintro ⟨before, numeral, after, rfl, hbefore, hafter, hmarked⟩
    rwa [trim_append hbefore hafter hmarked.not_white]
  · intro hmarked
    obtain ⟨before, after, hcs, hbefore, hafter⟩ := exists_trim cs
    exact ⟨before, trim cs, after, hcs, hbefore, hafter, hmarked⟩

theorem parse_eq_ok_iff {text : String} {w : UInt32} :
    parse text = .ok w ↔ Spells text.toList w.toNat := by
  rw [spells_iff, marked_iff]
  have hread : ∀ n, Numeral.read (splitRadix (trim text.toList)).1.base wordLimit
      (splitRadix (trim text.toList)).2 = .ok n ↔
        n < wordLimit ∧ Signed (splitRadix (trim text.toList)).1 (splitRadix (trim text.toList)).2 n :=
    fun n => read_eq_ok_iff (by decide)
  unfold parse
  simp only
  constructor
  · intro h
    split at h
    · rename_i n hn
      cases h
      obtain ⟨hlt, hsigned⟩ := (hread n).1 hn
      rwa [Word.toNat_ofNat hlt]
    · cases h
  · intro hsigned
    rw [(hread w.toNat).2 ⟨Word.toNat_lt_wordLimit w, hsigned⟩]
    simp only [UInt32.ofNat_toNat]

/-! ### Writing a number -/

theorem digit_digitChar (h : d < radix.base) : Digit radix d.digitChar d :=
  ⟨h, .inl rfl⟩

theorem Denotes.concat (h : Denotes radix cs n) (hdigit : Digit radix c d) :
    Denotes radix (cs ++ [c]) (radix.base * n + d) := by
  obtain ⟨-, values, hvalues, rfl⟩ := h
  refine ⟨List.concat_ne_nil c cs, values ++ [d], ?_, ?_⟩
  · exact List.rel_append hvalues (.cons hdigit .nil)
  · rw [List.reverse_concat, Nat.ofDigits_cons, Nat.add_comm]

theorem denotes_toDigits (radix : Radix) (n : Nat) : Denotes radix (Nat.toDigits radix.base n) n := by
  induction n using Nat.base_induction radix.base (one_lt_base radix) with
  | single d hd =>
    rw [Nat.toDigits_of_lt_base hd]
    exact ⟨List.cons_ne_nil _ _, [d], .cons (digit_digitChar hd) .nil, Nat.ofDigits_singleton.symm⟩
  | digit n d hd hn ih =>
    rw [← Nat.toDigits_append_toDigits (one_lt_base radix) hn hd, Nat.toDigits_of_lt_base hd]
    exact ih.concat (digit_digitChar hd)

theorem Denotes.zeros (h : Denotes radix cs n) (count : Nat) :
    Denotes radix (List.replicate count '0' ++ cs) n := by
  obtain ⟨hne, values, hvalues, rfl⟩ := h
  have hzeros : List.Forall₂ (Digit radix) (List.replicate count '0') (List.replicate count 0) := by
    induction count with
    | zero => exact .nil
    | succ count ih => exact .cons (digit_digitChar (Nat.zero_lt_of_lt (one_lt_base radix))) ih
  refine ⟨List.append_ne_nil_of_right_ne_nil _ hne, List.replicate count 0 ++ values,
    List.rel_append hzeros hvalues, ?_⟩
  rw [List.reverse_append, List.reverse_replicate, Nat.ofDigits_append_replicate_zero]

theorem Marked.spells (h : Marked cs n) : Spells cs n :=
  ⟨[], cs, [], (List.append_nil cs).symm, nofun, nofun, h⟩

theorem parse_hexWord (w : UInt32) : parse (Numeral.hexWord w) = .ok w := by
  let digits := (Nat.toDigits 16 w.toNat).leftpad 8 '0'
  have hdenotes : Denotes .hexadecimal digits w.toNat :=
    (denotes_toDigits .hexadecimal w.toNat).zeros _
  have htext : (Numeral.hexWord w).toList = '0' :: 'x' :: digits := by
    simp only [Numeral.hexWord, Numeral.hexDigits8, String.toList_append, String.toList_ofList]
    rfl
  exact parse_eq_ok_iff.2 (Marked.spells (.inl ⟨digits, .inl htext, digits, .inl rfl, hdenotes⟩))

theorem parse_toString (w : UInt32) : parse (toString w.toNat) = .ok w := by
  refine parse_eq_ok_iff.2 (Marked.spells (.inr ⟨_, .inl rfl, ?_⟩))
  rw [Nat.toString_eq_ofList_toDigits, String.toList_ofList]
  exact denotes_toDigits .decimal w.toNat

/-- **The texts of a static base.** A text is accepted exactly if it spells a number below the limit of a
word, as that number. What the linker is told is such a text, and so is a number written in decimal. -/
theorem parse_grammar :
    (∀ text w, parse text = .ok w ↔ Spells text.toList w.toNat) ∧
    (∀ text, (∀ w : UInt32, ¬Spells text.toList w.toNat) → ∃ e, parse text = .error e) ∧
    (∀ (t : Toolchain) (objects : List Path) (base : UInt32) (externals : Path) (samples : Sample.Inputs)
      (outDir : Path), ∀ inv ∈ t.staticLinks objects base externals samples outDir,
      ∃ text, inv.args[1]? = some ("-static=" ++ text) ∧ parse text = .ok base) ∧
    ∀ w : UInt32, parse (toString w.toNat) = .ok w := by
  refine ⟨fun text w => parse_eq_ok_iff, fun text hno => ?_, ?_, parse_toString⟩
  · cases h : parse text with
    | ok w => exact absurd (parse_eq_ok_iff.1 h) (hno w)
    | error e => exact ⟨e, rfl⟩
  · intro t objects base externals samples outDir inv hinv
    refine ⟨Numeral.hexWord base, ?_, parse_hexWord base⟩
    have hflag : "-static=0x" ++ Numeral.hexDigits8 base.toNat = "-static=" ++ Numeral.hexWord base := by
      rw [Numeral.hexWord, ← String.append_assoc]
      rfl
    obtain rfl | hinv := List.mem_cons.1 hinv
    · exact congrArg some hflag
    · obtain rfl := List.mem_singleton.1 hinv
      exact congrArg some hflag

/-- A padded number with sign, leading zeros and digits of both cases, one past the limit, and the text
that the second static link of a case is given. -/
theorem parse_grammar_of_padded_number :
    let t := Toolchain.ofDirectories (.ofString ".") (.ofString "../cw") (.ofString "../k_stdlib")
      (.ofString "../Kamek") none
    let inv := t.secondaryStaticLink [] 0xaf (.ofString "c/externals.txt") Sample.Inputs.relative
      (.ofString "c/_out")
    (Spells "\u00a00X+00aF\n".toList 0xaf ∧ parse "\u00a00X+00aF\n" = .ok 0xaf) ∧
    ((∀ w : UInt32, ¬Spells "4294967296".toList w.toNat) ∧ ∃ e, parse "4294967296" = .error e) ∧
    inv ∈ t.staticLinks [] 0xaf (.ofString "c/externals.txt") Sample.Inputs.relative (.ofString "c/_out") ∧
    ∃ text, inv.args[1]? = some ("-static=" ++ text) ∧ parse text = .ok 0xaf := by
  intro t inv
  obtain ⟨hok, herror, hlinks, -⟩ := parse_grammar
  have hparse : parse "\u00a00X+00aF\n" = .ok 0xaf := by decide +kernel
  have hlarge : ∀ w : UInt32, ¬Spells "4294967296".toList w.toNat := by
    intro w hspells
    have hrejected : (parse "4294967296").toOption = none := by decide +kernel
    rw [(hok _ w).2 hspells] at hrejected
    cases hrejected
  have hinv : inv ∈ t.staticLinks [] 0xaf (.ofString "c/externals.txt") Sample.Inputs.relative
      (.ofString "c/_out") :=
    List.mem_cons_of_mem _ (List.mem_singleton_self inv)
  exact ⟨⟨(hok _ 0xaf).1 hparse, hparse⟩, ⟨hlarge, herror _ hlarge⟩, hinv, hlinks t _ _ _ _ _ inv hinv⟩

end LinkBench.StaticBase
