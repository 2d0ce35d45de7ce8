import Accounts.Password.Hasher
import Accounts.Proofs.Encoding.Sextets

/-! # The form of a hash

A hash that was made has the shape of a hash, and the parameters it was made from are read back from
it. So a stored hash is checked with its own salt and cost.
-/
namespace Accounts.Password

theorem costOfRounds_ok {rounds : Int} (h : minCost ≤ rounds ∧ rounds ≤ maxCost) :
    costOfRounds rounds = .ok rounds.toNat := by
  have hmin : minCost = 4 := rfl
  have hmax : maxCost = 31 := rfl
  rw [costOfRounds, if_neg (by omega), if_neg (by omega)]

theorem costOfRounds_ok_iff {rounds : Int} {cost : Nat} :
    costOfRounds rounds = .ok cost ↔ 4 ≤ rounds ∧ rounds ≤ 31 ∧ cost = rounds.toNat := by
  constructor
  · intro h
    unfold costOfRounds at h
    split at h
    · cases h
    · split at h
      · cases h
      · next hrange =>
        have hmin : minCost = 4 := rfl
        have hmax : maxCost = 31 := rfl
        cases h
        exact ⟨by omega, by omega, rfl⟩
  · rintro ⟨hmin, hmax, rfl⟩
    exact costOfRounds_ok ⟨hmin, hmax⟩

theorem letterValue?_letter : ∀ n < 64, letterValue? (letter n) = some n := by
  decide

theorem letters_mapM (values : List Nat) (hv : ∀ n ∈ values, n < 64) :
    (values.map letter).mapM letterValue? = some values := by
  induction values with
  | nil => rfl
  | cons n ns ih =>
    simp [letterValue?_letter n (hv n (.head _)), ih fun m hm => hv m (.tail _ hm)]

theorem saltOf?_saltLetters (salt : Vector UInt8 16) : saltOf? (saltLetters salt) = some salt := by
  have hmap : (saltLetters salt).mapM letterValue? = some (Encoding.sextets salt.toList) := by
    rw [saltLetters, Encoding.encodeSextets_eq_map, letters_mapM _ (Encoding.sextets_lt _)]
  have hlen : (Encoding.ofSextets (Encoding.sextets salt.toList)).length = 16 := by
    rw [Encoding.ofSextets_sextets, Vector.length_toList]
  have hsalt : (⟨(Encoding.ofSextets (Encoding.sextets salt.toList)).toArray, by simpa using hlen⟩ :
      Vector UInt8 16) = salt := by
    apply Vector.toArray_inj.mp
    change (Encoding.ofSextets (Encoding.sextets salt.toList)).toArray = salt.toArray
    rw [Encoding.ofSextets_sextets]
    exact Array.toArray_toList
  rw [saltOf?, hmap, Option.bind_eq_bind, Option.bind_some]
  simp only [hlen, dif_pos, hsalt, if_pos]

theorem figure_spec : ∀ k < 10, (Text.decimalValue? (figure k)).isSome = true := by
  decide

theorem costOf?_figures : ∀ cost ≤ maxCost, minCost ≤ cost →
    costOf? (figure (cost / 10)) (figure (cost % 10)) = some cost := by
  decide

def body (salt : Vector UInt8 16) (digest : Vector UInt8 23) : List Char :=
  saltLetters salt ++ Encoding.encodeSextets letter digest.toList

theorem length_saltLetters (salt : Vector UInt8 16) : (saltLetters salt).length = 22 := by
  rw [saltLetters, Encoding.length_encodeSextets, Vector.length_toList]

theorem length_body (salt : Vector UInt8 16) (digest : Vector UInt8 23) :
    (body salt digest).length = letterCount := by
  rw [body, List.length_append, length_saltLetters, Encoding.length_encodeSextets,
    Vector.length_toList]
  rfl

theorem letters_valued (bs : Bytes) :
    ∀ c ∈ Encoding.encodeSextets letter bs, (letterValue? c).isSome = true := by
  intro c hc
  rw [Encoding.encodeSextets_eq_map] at hc
  obtain ⟨n, hn, rfl⟩ := List.mem_map.mp hc
  rw [letterValue?_letter n (Encoding.sextets_lt bs n hn)]
  rfl

theorem bodyOf?_body (salt : Vector UInt8 16) (digest : Vector UInt8 23) :
    bodyOf? (body salt digest) = some (body salt digest, false) := by
  have hlen := length_body salt digest
  have hvalued : (body salt digest).all (fun c => (letterValue? c).isSome) = true := by
    rw [List.all_eq_true]
    intro c hc
    rcases List.mem_append.mp hc with hc | hc
    · exact letters_valued _ c hc
    · exact letters_valued _ c hc
  unfold bodyOf?
  simp only [List.take_of_length_le (Nat.le_of_eq hlen), List.drop_of_length_le (Nat.le_of_eq hlen),
    hlen, hvalued, and_self, if_true]

def paramsOf? (hash : String) : Option Params :=
  (Shape.ofChars? hash.toList).bind Shape.params?

theorem shape_compute (suite : Suite) (cost : Nat) (salt : Vector UInt8 16) (password : String)
    (hmin : minCost ≤ cost) (hmax : cost ≤ maxCost) :
    ∃ shape, Shape.ofChars? (compute suite ⟨.b, cost, salt⟩ password).toList = some shape ∧
      shape.params? = some ⟨.b, cost, salt⟩ := by
  have hmax' : cost ≤ 31 := hmax
  have htens := figure_spec (cost / 10) (by omega)
  have hones := figure_spec (cost % 10) (by omega)
  let digest := suite.digest cost salt (Crypto.Bcrypt.keyMaterial (Text.utf8 password))
  refine ⟨⟨some .b, figure (cost / 10), figure (cost % 10), body salt digest, false⟩, ?_, ?_⟩
  · have hchars : (compute suite ⟨.b, cost, salt⟩ password).toList =
        '$' :: '2' :: 'b' :: '$' :: figure (cost / 10) :: figure (cost % 10) :: '$' ::
          body salt digest := by
      simp [compute, Params.chars, Version.char, body, digest]
    have hcost : Shape.ofCost? (some .b)
        (figure (cost / 10) :: figure (cost % 10) :: '$' :: body salt digest) =
          some ⟨some .b, figure (cost / 10), figure (cost % 10), body salt digest, false⟩ := by
      simp only [Shape.ofCost?, htens, hones, Bool.and_self, if_true, bodyOf?_body, Option.map_some]
    rw [hchars]
    exact hcost
  · have hsalt : (body salt digest).take 22 = saltLetters salt := by
      rw [body, List.take_append_of_le_length (Nat.le_of_eq (length_saltLetters salt).symm),
        List.take_of_length_le (Nat.le_of_eq (length_saltLetters salt))]
    simp only [Shape.params?, costOf?_figures cost hmax hmin, hsalt, saltOf?_saltLetters,
      Option.bind_eq_bind, Option.bind_some]
    rfl

theorem paramsOf?_compute (suite : Suite) (cost : Nat) (salt : Vector UInt8 16) (password : String)
    (hmin : minCost ≤ cost) (hmax : cost ≤ maxCost) :
    paramsOf? (compute suite ⟨.b, cost, salt⟩ password) = some ⟨.b, cost, salt⟩ := by
  obtain ⟨shape, hshape, hparams⟩ := shape_compute suite cost salt password hmin hmax
  rw [paramsOf?, hshape, Option.bind_some, hparams]

/-- Checking a text against a stored hash with parameters repeats the hash, unless the text is too
long. -/
theorem verify_of_params {suite : Suite} {hash : String} {params : Params}
    (h : paramsOf? hash = some params) (password : String) :
    verify suite hash password =
      .ok (!isTooLong password && compute suite params password == hash) := by
  obtain ⟨shape, hshape, hparams⟩ := Option.bind_eq_some_iff.mp h
  rw [verify, hshape]
  simp only [hparams]
  cases isTooLong password <;> rfl

end Accounts.Password
