import Mathlib.Computability.Language
import Accounts.Text.Letter
import Accounts.Proofs.Password.Format

/-! # The form of a stored text

Two languages are told apart. The texts of the lenient one have the shape of a hash. Those of the
strict one have parameters besides, so a hash can be made again to compare them with.
-/
namespace Accounts.Password

variable {cs : List Char} {shape : Shape} {c : Char}

def one (test : Char → Bool) : Language Char := {cs | ∃ c, test c = true ∧ cs = [c]}

theorem mem_one_pow {test : Char → Bool} {n : Nat} :
    cs ∈ one test ^ n ↔ cs.length = n ∧ ∀ c ∈ cs, test c = true := by
  induction n generalizing cs with
  | zero =>
    rw [pow_zero, Language.mem_one, List.length_eq_zero_iff]
    constructor
    · rintro rfl
      simp
    · exact fun h => h.1
  | succ n ih =>
    rw [pow_succ', Language.mem_mul]
    constructor
    · rintro ⟨_, ⟨c, hc, rfl⟩, r, hr, rfl⟩
      obtain ⟨hlength, hall⟩ := ih.mp hr
      refine ⟨by simp [hlength], ?_⟩
      rw [List.singleton_append, List.forall_mem_cons]
      exact ⟨hc, hall⟩
    · rintro ⟨hlength, hall⟩
      cases cs with
      | nil => simp at hlength
      | cons c r =>
        rw [List.forall_mem_cons] at hall
        have hr : r ∈ one test ^ n := ih.mpr ⟨by simpa using hlength, hall.2⟩
        exact ⟨[c], ⟨c, hall.1, rfl⟩, r, hr, rfl⟩

def isVersion (c : Char) : Bool := c == 'a' || c == 'b' || c == 'x' || c == 'y'

def isDecimal (c : Char) : Bool := (Text.decimalValue? c).isSome

def isHashLetter (c : Char) : Bool :=
  c == '.' || c == '/' || Text.isAsciiLetter c || Text.isAsciiDigit c

/-- `$2`, a version or none, `$`, two decimal digits, `$`, and 53 letters, to the end of the text or
to a line feed that ends it. -/
def lenientForm : Language Char :=
  {['$', '2']} * (1 + one isVersion) * {['$']} * one isDecimal ^ 2 * {['$']} *
    one isHashLetter ^ 53 * (1 + {['\n']})

def costs : Language Char :=
  {cs | ∃ cost, 4 ≤ cost ∧ cost ≤ 31 ∧ cs = [figure (cost / 10), figure (cost % 10)]}

def salts : Language Char := Set.range saltLetters

/-- `$2`, a version, `$`, a cost, `$`, a salt and 31 more letters. -/
def hashForm : Language Char :=
  {['$', '2']} * one isVersion * {['$']} * costs * {['$']} * (salts * one isHashLetter ^ 31)

/-- A hash to the end of the text or to a line feed that ends it. -/
def strictForm : Language Char := hashForm * (1 + {['\n']})

theorem ofChar?_eq_some_iff {v : Version} : Version.ofChar? c = some v ↔ c = v.char := by
  constructor
  · intro h
    unfold Version.ofChar? at h
    split at h <;> cases h <;> rfl
  · rintro rfl
    cases v <;> rfl

theorem isVersion_iff : isVersion c = true ↔ ∃ v : Version, c = v.char := by
  constructor
  · intro h
    simp only [isVersion, Bool.or_eq_true, beq_iff_eq] at h
    rcases h with ((rfl | rfl) | rfl) | rfl
    exacts [⟨.a, rfl⟩, ⟨.b, rfl⟩, ⟨.x, rfl⟩, ⟨.y, rfl⟩]
  · rintro ⟨v, rfl⟩
    cases v <;> rfl

theorem letterValue?_isSome (c : Char) : (letterValue? c).isSome = isHashLetter c := by
  have hdot : c = '.' ↔ c.toNat = 46 := Char.toNat_inj.symm
  have hslash : c = '/' ↔ c.toNat = 47 := Char.toNat_inj.symm
  have hle : ∀ a b : Char, a ≤ b ↔ a.toNat ≤ b.toNat := fun _ _ => Iff.rfl
  rw [Bool.eq_iff_iff]
  simp only [letterValue?, isHashLetter, Text.isAsciiLetter, Text.isAsciiDigit, Bool.or_eq_true,
    Bool.and_eq_true, beq_iff_eq, decide_eq_true_eq, hdot, hslash, hle, Char.reduceToNat]
  grind

def lineEnd (lineFeed : Bool) : List Char := if lineFeed then ['\n'] else []

theorem bodyOf?_eq_some_iff {letters : List Char} {lineFeed : Bool} :
    bodyOf? cs = some (letters, lineFeed) ↔
      letters.length = letterCount ∧ (∀ c ∈ letters, isHashLetter c = true) ∧
        cs = letters ++ lineEnd lineFeed := by
  constructor
  · intro h
    simp only [bodyOf?] at h
    split at h
    · next hbody =>
      simp only [List.all_eq_true, letterValue?_isSome] at hbody
      split at h
      · next hrest =>
        cases h
        refine ⟨hbody.1, hbody.2, ?_⟩
        have := List.take_append_drop letterCount cs
        rw [hrest] at this
        exact this.symm
      · next hrest =>
        cases h
        refine ⟨hbody.1, hbody.2, ?_⟩
        have := List.take_append_drop letterCount cs
        rw [hrest] at this
        exact this.symm
      · cases h
    · cases h
  · rintro ⟨hlength, hletters, rfl⟩
    have htake : (letters ++ lineEnd lineFeed).take letterCount = letters := by
      rw [← hlength, List.take_left]
    have hdrop : (letters ++ lineEnd lineFeed).drop letterCount = lineEnd lineFeed := by
      rw [← hlength, List.drop_left]
    have hall : letters.all (fun c => (letterValue? c).isSome) = true := by
      simp only [List.all_eq_true, letterValue?_isSome]
      exact hletters
    simp only [bodyOf?, htake, hdrop]
    rw [if_pos ⟨hlength, hall⟩]
    cases lineFeed <;> rfl

def Shape.chars (shape : Shape) : List Char :=
  '$' :: '2' :: (shape.version.map Version.char).toList ++ '$' :: shape.tens :: shape.ones ::
    '$' :: shape.letters ++ lineEnd shape.lineFeed

structure Shape.IsFormed (shape : Shape) : Prop where
  tens : isDecimal shape.tens = true
  ones : isDecimal shape.ones = true
  length : shape.letters.length = letterCount
  letters : ∀ c ∈ shape.letters, isHashLetter c = true

theorem ofCost?_eq_some_iff {version : Option Version} :
    Shape.ofCost? version cs = some shape ↔ shape.version = version ∧ shape.IsFormed ∧
      cs = shape.tens :: shape.ones :: '$' :: shape.letters ++ lineEnd shape.lineFeed := by
  constructor
  · intro h
    unfold Shape.ofCost? at h
    split at h
    · next tens ones r =>
      split at h
      · next hdigits =>
        rw [Bool.and_eq_true] at hdigits
        obtain ⟨⟨letters, lineFeed⟩, hbody, rfl⟩ := Option.map_eq_some_iff.mp h
        obtain ⟨hlength, hletters, rfl⟩ := bodyOf?_eq_some_iff.mp hbody
        exact ⟨rfl, ⟨hdigits.1, hdigits.2, hlength, hletters⟩, rfl⟩
      · cases h
    · cases h
  · obtain ⟨version', tens, ones, letters, lineFeed⟩ := shape
    rintro ⟨rfl, ⟨htens, hones, hlength, hletters⟩, rfl⟩
    have hbody : bodyOf? (letters ++ lineEnd lineFeed) = some (letters, lineFeed) :=
      bodyOf?_eq_some_iff.mpr ⟨hlength, hletters, rfl⟩
    have hdigits : ((Text.decimalValue? tens).isSome && (Text.decimalValue? ones).isSome) = true :=
      Bool.and_eq_true_iff.mpr ⟨htens, hones⟩
    simp only [List.cons_append, Shape.ofCost?, hbody, hdigits]
    rfl

/-- A text is read as a shape exactly if it is the text of that shape. -/
theorem ofChars?_eq_some_iff :
    Shape.ofChars? cs = some shape ↔ shape.IsFormed ∧ cs = shape.chars := by
  constructor
  · intro h
    unfold Shape.ofChars? at h
    split at h
    · obtain ⟨hversion, formed, rfl⟩ := ofCost?_eq_some_iff.mp h
      refine ⟨formed, ?_⟩
      rw [Shape.chars, hversion]
      rfl
    · obtain ⟨v, hv, hcost⟩ := Option.bind_eq_some_iff.mp h
      obtain ⟨hversion, formed, rfl⟩ := ofCost?_eq_some_iff.mp hcost
      refine ⟨formed, ?_⟩
      rw [Shape.chars, hversion, ofChar?_eq_some_iff.mp hv]
      rfl
    · cases h
  · obtain ⟨version, tens, ones, letters, lineFeed⟩ := shape
    rintro ⟨formed, rfl⟩
    have hcost : Shape.ofCost? version (tens :: ones :: '$' :: letters ++ lineEnd lineFeed) =
        some ⟨version, tens, ones, letters, lineFeed⟩ :=
      ofCost?_eq_some_iff.mpr ⟨rfl, formed, rfl⟩
    cases version with
    | none => exact hcost
    | some v => cases v <;> exact hcost

theorem mem_version {v : List Char} :
    v ∈ 1 + one isVersion ↔ ∃ version : Option Version, v = (version.map Version.char).toList := by
  rw [Language.mem_add, Language.mem_one]
  constructor
  · rintro (rfl | ⟨c, hc, rfl⟩)
    · exact ⟨none, rfl⟩
    · obtain ⟨version, rfl⟩ := isVersion_iff.mp hc
      exact ⟨some version, rfl⟩
  · rintro ⟨_ | version, rfl⟩
    · exact .inl rfl
    · exact .inr ⟨_, isVersion_iff.mpr ⟨version, rfl⟩, rfl⟩

theorem mem_lineEnd {e : List Char} :
    e ∈ (1 + {['\n']} : Language Char) ↔ ∃ lineFeed, e = lineEnd lineFeed := by
  rw [Language.mem_add, Language.mem_one]
  constructor
  · rintro (rfl | rfl)
    · exact ⟨false, rfl⟩
    · exact ⟨true, rfl⟩
  · rintro ⟨_ | _, rfl⟩
    · exact .inl rfl
    · exact .inr rfl

theorem mem_lenientForm :
    cs ∈ lenientForm ↔ ∃ shape : Shape, shape.IsFormed ∧ cs = shape.chars := by
  simp only [lenientForm, Language.mem_mul, mem_version, mem_lineEnd, mem_one_pow]
  constructor
  · rintro ⟨_, ⟨_, ⟨_, ⟨_, ⟨_, ⟨_, rfl, _, ⟨version, rfl⟩, rfl⟩, _, rfl, rfl⟩, digits,
      ⟨hcount, hdigits⟩, rfl⟩, _, rfl, rfl⟩, letters, ⟨hlength, hletters⟩, rfl⟩, _,
      ⟨lineFeed, rfl⟩, rfl⟩
    obtain ⟨tens, ones, rfl⟩ := List.length_eq_two.mp hcount
    refine ⟨⟨version, tens, ones, letters, lineFeed⟩, ⟨?_, ?_, hlength, hletters⟩, ?_⟩
    · exact hdigits tens (by simp)
    · exact hdigits ones (by simp)
    · simp [Shape.chars]
  · rintro ⟨⟨version, tens, ones, letters, lineFeed⟩, formed, rfl⟩
    refine ⟨_, ⟨_, ⟨_, ⟨_, ⟨_, ⟨_, rfl, _, ⟨version, rfl⟩, rfl⟩, _, rfl, rfl⟩, [tens, ones],
      ⟨rfl, ?_⟩, rfl⟩, _, rfl, rfl⟩, letters, ⟨formed.length, formed.letters⟩, rfl⟩, _,
      ⟨lineFeed, rfl⟩, ?_⟩
    · simpa using ⟨formed.tens, formed.ones⟩
    · simp [Shape.chars]

theorem isSome_ofChars?_iff : (Shape.ofChars? cs).isSome = true ↔ cs ∈ lenientForm := by
  simp only [mem_lenientForm, Option.isSome_iff_exists, ofChars?_eq_some_iff]

theorem figure_value : ∀ k < 10, (figure k).toNat = k + 48 := by
  decide

theorem figure_of_isAsciiDigit (h : Text.isAsciiDigit c = true) : ∃ k < 10, c = figure k := by
  simp only [Text.isAsciiDigit, Bool.and_eq_true, decide_eq_true_eq, Char.le_def,
    UInt32.le_iff_toNat_le] at h
  have hmin : 48 ≤ c.toNat := h.1
  have hmax : c.toNat ≤ 57 := h.2
  refine ⟨c.toNat - 48, by omega, ?_⟩
  apply Char.toNat_inj.mp
  rw [figure_value _ (by omega)]
  omega

theorem costOf?_eq_some_iff {tens ones : Char} {cost : Nat} :
    costOf? tens ones = some cost ↔ 4 ≤ cost ∧ cost ≤ 31 ∧
      tens = figure (cost / 10) ∧ ones = figure (cost % 10) := by
  constructor
  · intro h
    unfold costOf? at h
    split at h
    · next hdigits =>
      rw [Bool.and_eq_true] at hdigits
      obtain ⟨a, ha, rfl⟩ := figure_of_isAsciiDigit hdigits.1
      obtain ⟨b, hb, rfl⟩ := figure_of_isAsciiDigit hdigits.2
      have hdiv : (a * 10 + b) / 10 = a := by omega
      have hmod : (a * 10 + b) % 10 = b := by omega
      simp only [figure_value a ha, figure_value b hb, Nat.add_sub_cancel, Bool.and_eq_true,
        decide_eq_true_eq, Option.ite_none_right_eq_some, Option.some.injEq] at h
      obtain ⟨⟨hmin, hmax⟩, rfl⟩ := h
      exact ⟨hmin, hmax, by rw [hdiv], by rw [hmod]⟩
    · cases h
  · rintro ⟨hmin, hmax, rfl, rfl⟩
    exact costOf?_figures cost hmax hmin

theorem saltOf?_eq_some_iff {letters : List Char} {salt : Vector UInt8 16} :
    saltOf? letters = some salt ↔ letters = saltLetters salt := by
  constructor
  · intro h
    unfold saltOf? at h
    obtain ⟨values, -, h⟩ := Option.bind_eq_some_iff.mp h
    dsimp only at h
    split at h
    · split at h
      · next hletters =>
        cases h
        exact hletters.symm
      · cases h
    · cases h
  · rintro rfl
    exact saltOf?_saltLetters salt

theorem params?_eq_some_iff {p : Params} :
    shape.params? = some p ↔ shape.version = some p.version ∧
      costOf? shape.tens shape.ones = some p.cost ∧
        shape.letters.take 22 = saltLetters p.salt := by
  simp only [← saltOf?_eq_some_iff, Shape.params?, Option.bind_eq_bind, Option.bind_eq_some_iff]
  constructor
  · rintro ⟨version, hversion, cost, hcost, salt, hsalt, h⟩
    cases h
    exact ⟨hversion, hcost, hsalt⟩
  · rintro ⟨hversion, hcost, hsalt⟩
    exact ⟨_, hversion, _, hcost, _, hsalt, rfl⟩

theorem mem_salts_mul {letters : List Char} :
    letters ∈ salts * one isHashLetter ^ 31 ↔ letters.length = letterCount ∧
      (∀ c ∈ letters, isHashLetter c = true) ∧ ∃ salt, letters.take 22 = saltLetters salt := by
  rw [Language.mem_mul]
  constructor
  · rintro ⟨_, ⟨salt, rfl⟩, r, hr, rfl⟩
    obtain ⟨hlength, hletters⟩ := mem_one_pow.mp hr
    refine ⟨?_, ?_, salt, ?_⟩
    · rw [List.length_append, length_saltLetters, hlength]
      rfl
    · intro c hc
      rcases List.mem_append.mp hc with hc | hc
      · rw [← letterValue?_isSome]
        exact letters_valued _ c hc
      · exact hletters c hc
    · rw [← length_saltLetters salt, List.take_left]
  · rintro ⟨hlength, hletters, salt, hsalt⟩
    refine ⟨saltLetters salt, ⟨salt, rfl⟩, letters.drop 22, mem_one_pow.mpr ⟨?_, ?_⟩, ?_⟩
    · rw [List.length_drop, hlength]
      rfl
    · exact fun c hc => hletters c (List.mem_of_mem_drop hc)
    · rw [← hsalt, List.take_append_drop]

theorem mem_strictForm : cs ∈ strictForm ↔ ∃ (shape : Shape) (p : Params),
    shape.IsFormed ∧ shape.params? = some p ∧ cs = shape.chars := by
  rw [strictForm, hashForm, Language.mem_mul]
  simp only [Language.mem_mul (m := salts * one isHashLetter ^ 31), mem_salts_mul, mem_lineEnd]
  simp only [Language.mem_mul]
  constructor
  · rintro ⟨_, ⟨_, ⟨_, ⟨_, ⟨_, ⟨_, rfl, _, ⟨c, hc, rfl⟩, rfl⟩, _, rfl, rfl⟩, _,
      ⟨cost, hmin, hmax, rfl⟩, rfl⟩, _, rfl, rfl⟩, letters, ⟨hlength, hletters, salt, hsalt⟩, rfl⟩,
      _, ⟨lineFeed, rfl⟩, rfl⟩
    obtain ⟨version, rfl⟩ := isVersion_iff.mp hc
    refine ⟨⟨some version, figure (cost / 10), figure (cost % 10), letters, lineFeed⟩,
      ⟨version, cost, salt⟩, ⟨?_, ?_, hlength, hletters⟩, ?_, ?_⟩
    · exact figure_spec _ (by omega)
    · exact figure_spec _ (by omega)
    · exact params?_eq_some_iff.mpr
        ⟨rfl, costOf?_eq_some_iff.mpr ⟨hmin, hmax, rfl, rfl⟩, hsalt⟩
    · simp [Shape.chars]
  · rintro ⟨⟨version, tens, ones, letters, lineFeed⟩, p, formed, hp, rfl⟩
    obtain ⟨hversion, hcost, hsalt⟩ := params?_eq_some_iff.mp hp
    obtain ⟨hmin, hmax, htens, hones⟩ := costOf?_eq_some_iff.mp hcost
    refine ⟨_, ⟨_, ⟨_, ⟨_, ⟨_, ⟨_, rfl, _, ⟨_, isVersion_iff.mpr ⟨p.version, rfl⟩, rfl⟩, rfl⟩, _,
      rfl, rfl⟩, _, ⟨p.cost, hmin, hmax, rfl⟩, rfl⟩, _, rfl, rfl⟩, letters,
      ⟨formed.length, formed.letters, p.salt, hsalt⟩, rfl⟩, _, ⟨lineFeed, rfl⟩, ?_⟩
    dsimp only at hversion htens hones
    simp [Shape.chars, hversion, htens, hones]

theorem exists_paramsOf?_iff {hash : String} :
    (∃ p, paramsOf? hash = some p) ↔ hash.toList ∈ strictForm := by
  simp only [mem_strictForm, paramsOf?, Option.bind_eq_some_iff, ofChars?_eq_some_iff]
  constructor
  · rintro ⟨p, shape, ⟨formed, hchars⟩, hp⟩
    exact ⟨shape, p, formed, hp, hchars⟩
  · rintro ⟨shape, p, formed, hp, hchars⟩
    exact ⟨p, shape, ⟨formed, hchars⟩, hp⟩

theorem lenient_of_strict {hash : String} (h : hash.toList ∈ strictForm) :
    hash.toList ∈ lenientForm := by
  obtain ⟨shape, _, formed, -, hchars⟩ := mem_strictForm.mp h
  exact mem_lenientForm.mpr ⟨shape, formed, hchars⟩

end Accounts.Password
