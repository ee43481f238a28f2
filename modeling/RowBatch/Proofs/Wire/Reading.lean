import RowBatch.Wire.Reading
import RowBatch.Proofs.Wire.Binding

/-!
What a server finds in the bytes of a bound value: the value itself, for every type that keeps it
without loss.
-/

namespace RowBatch
namespace Wire

theorem ofBigEndian_concat (bytes : List UInt8) (b : UInt8) :
    ofBigEndian (bytes ++ [b]) = 256 * ofBigEndian bytes + b.toNat := by
  simp [ofBigEndian]

theorem ofBigEndian_bigEndian (width n : Nat) :
    ofBigEndian (bigEndian width n) = n % 256 ^ width := by
  induction width generalizing n with
  | zero => simp [bigEndian, ofBigEndian, Nat.mod_one]
  | succ width ih =>
    have hlast : (UInt8.ofNat n).toNat = n % 256 := by simp
    rw [bigEndian, ofBigEndian_concat, ih, hlast, Nat.pow_succ', Nat.mod_mul]
    omega

theorem ofBigEndian_of_lt {width n : Nat} (h : n < 256 ^ width) :
    ofBigEndian (bigEndian width n) = n := by
  rw [ofBigEndian_bigEndian, Nat.mod_eq_of_lt h]

theorem ofSigned_signed {width : Nat} {v : Int} (hlow : -(256 ^ width : Nat) ≤ 2 * v)
    (hhigh : 2 * v < (256 ^ width : Nat)) : ofSigned (signed width v) = v := by
  have hlength : (signed width v).length = width := length_bigEndian ..
  have hpos : 0 < 256 ^ width := Nat.pow_pos (by decide)
  have hnumber : ofBigEndian (signed width v) = (v % (256 ^ width : Nat)).toNat := by
    apply ofBigEndian_of_lt
    have hless := Int.emod_lt_of_pos v (Int.natCast_pos.mpr hpos)
    omega
  simp only [ofSigned, hlength, hnumber]
  generalize 256 ^ width = size at *
  by_cases hnegative : v < 0
  · have hmod : v % (size : Int) = v + size := by
      rw [← Int.add_emod_right, Int.emod_eq_of_lt (by omega) (by omega)]
    rw [hmod, if_neg (by omega)]
    omega
  · rw [Int.emod_eq_of_lt (by omega) (by omega), if_pos (by omega)]
    omega

theorem integer?_signed {width : Nat} {v : Int} (hlow : -(256 ^ width : Nat) ≤ 2 * v)
    (hhigh : 2 * v < (256 ^ width : Nat)) : integer? width (signed width v) = some v := by
  have hlength : (signed width v).length = width := length_bigEndian ..
  rw [integer?, if_pos hlength, ofSigned_signed hlow hhigh]

theorem text?_utf8 (s : String) : text? (utf8 s) = some s := by
  unfold text? utf8 String.fromUTF8?
  exact dif_pos s.isValidUTF8

theorem natural?_repr (n : Nat) : natural? n.repr.toList = some n := by
  have hdigits : (Nat.toDigits 10 n).all Char.isDigit = true :=
    List.all_eq_true.mpr fun c hc => Nat.isDigit_of_mem_toDigits (by decide) (by decide) hc
  simp [natural?, Nat.repr, hdigits]

theorem decimal?_repr (v : Int) : decimal? v.repr.toList = some v := by
  cases v with
  | ofNat n =>
    have hplain : ∀ cs, n.repr.toList ≠ '-' :: cs := by
      intro cs h
      have hread := natural?_repr n
      rw [h] at hread
      simp [natural?] at hread
    show decimal? n.repr.toList = _
    unfold decimal?
    split
    · rename_i cs h
      exact absurd h (hplain cs)
    · rw [natural?_repr]
      rfl
  | negSucc n =>
    have hsigned : ((Int.negSucc n).repr).toList = '-' :: (n + 1).repr.toList := by
      show ("-" ++ (n + 1).repr).toList = _
      simp
    rw [hsigned, decimal?, natural?_repr]
    rfl

namespace Numeric

theorem digits?_flatMap {digits : List Nat} (h : ∀ digit ∈ digits, digit < 256 ^ 2) :
    digits? digits.length (digits.flatMap (bigEndian 2)) = some digits := by
  induction digits with
  | nil => rfl
  | cons digit digits ih =>
    have hdigit := ofBigEndian_of_lt (h digit (by simp))
    have hrest := ih fun d hd => h d (List.mem_cons_of_mem digit hd)
    show (digits? digits.length (digits.flatMap (bigEndian 2))).map
      (ofBigEndian (bigEndian 2 digit) :: ·) = _
    rw [hrest, hdigit]
    rfl

/-- A number whose parts have room in their fields, with groups of four digits. -/
structure IsSendable (n : Numeric) : Prop where
  count : n.digits.length < 256 ^ 2
  weight_low : -256 ^ 2 ≤ 2 * n.weight
  weight_high : 2 * n.weight < 256 ^ 2
  scale : n.scale < 256 ^ 2
  digits : ∀ digit ∈ n.digits, digit < 10000

theorem read?_bytes {n : Numeric} (h : n.IsSendable) : read? n.bytes = some n := by
  have hdigits : digits? n.digits.length (n.digits.flatMap (bigEndian 2)) = some n.digits :=
    digits?_flatMap fun digit hdigit => Nat.lt_trans (h.digits digit hdigit) (by decide)
  have hall : n.digits.all (· < 10000) = true := by simpa using h.digits
  have hsign : negative? (ofBigEndian (bigEndian 2 (if n.negative then 0x4000 else 0))) =
      some n.negative := by
    cases n.negative <;> rfl
  have hread : read? n.bytes =
      (digits? (ofBigEndian (bigEndian 2 n.digits.length)) (n.digits.flatMap (bigEndian 2))).bind
        fun digits =>
          (negative? (ofBigEndian (bigEndian 2 (if n.negative then 0x4000 else 0)))).bind
            fun negative =>
              if digits.all (· < 10000) then
                some ⟨ofSigned (signed 2 n.weight), negative, ofBigEndian (bigEndian 2 n.scale),
                  digits⟩
              else none := rfl
  rw [hread, ofBigEndian_of_lt h.count, hdigits, hsign]
  simp only [Option.bind_some, hall, if_true]
  rw [ofSigned_signed h.weight_low h.weight_high, ofBigEndian_of_lt h.scale]

theorem sum_succ (weight : Int) (digits : List Nat) :
    sum (weight + 1) digits = 10000 * sum weight digits := by
  induction digits generalizing weight with
  | nil => simp [sum]
  | cons digit digits ih =>
    have hrest := ih (weight - 1)
    have hpower := Rat.zpow_add_one (q := 10000) (by decide) weight
    rw [Int.sub_add_cancel] at hrest
    rw [sum, sum, Int.add_sub_cancel, hrest, hpower]
    grind

theorem sum_concat (weight : Int) (digits : List Nat) (digit : Nat) :
    sum weight (digits ++ [digit]) = sum weight digits + digit * 10000 ^ (weight - digits.length) := by
  induction digits generalizing weight with
  | nil =>
    show (digit : Rat) * 10000 ^ weight + 0 = 0 + digit * 10000 ^ (weight - 0)
    rw [Int.sub_zero, Rat.add_zero, Rat.zero_add]
  | cons first digits ih =>
    rw [List.cons_append, sum, sum, ih, List.length_cons]
    have hweight : weight - 1 - (digits.length : Int) = weight - ((digits.length + 1 : Nat) : Int) := by
      omega
    rw [hweight]
    grind

theorem sum_groups (n : Nat) : sum ((groups n).length - 1) (groups n) = n := by
  induction n using groups.induct with
  | case1 => simp [groups, sum]
  | case2 n h ih =>
    have hgroups : groups n = groups (n / 10000) ++ [n % 10000] := by rw [groups, dif_neg h]
    have hlength : ((groups n).length : Int) - 1 = ((groups (n / 10000)).length - 1) + 1 := by
      rw [hgroups, List.length_append]
      simp
    rw [hlength, hgroups, sum_concat, sum_succ, ih]
    have hunits : ((groups (n / 10000)).length : Int) - 1 + 1 - (groups (n / 10000)).length = 0 := by
      omega
    rw [hunits, Rat.zpow_zero]
    have hn : 10000 * (n / 10000) + n % 10000 = n := by omega
    rw [Rat.mul_one]
    exact_mod_cast hn

theorem length_groups {n count : Nat} (h : n < 10000 ^ count) : (groups n).length ≤ count := by
  induction count generalizing n with
  | zero =>
    obtain rfl : n = 0 := by simpa using h
    simp [groups]
  | succ count ih =>
    unfold groups
    split
    · simp
    · have hless : n / 10000 < 10000 ^ count := by
        rw [Nat.pow_succ] at h
        omega
      simpa using ih hless

theorem lt_of_mem_groups {n digit : Nat} (h : digit ∈ groups n) : digit < 10000 := by
  induction n using groups.induct with
  | case1 => simp [groups] at h
  | case2 n hn ih =>
    rw [groups, dif_neg hn, List.mem_append] at h
    rcases h with hfront | hlast
    · exact ih hfront
    · obtain rfl : digit = n % 10000 := by simpa using hlast
      omega

/-- An integer has its own groups and nothing behind the point. -/
theorem ofDecimal_ofInt {v : Int} (h : v ≠ 0) :
    ofDecimal (.ofInt v) =
      ⟨(groups v.natAbs).length - 1, decide (v < 0), 0, groups v.natAbs⟩ := by
  have hmantissa : v.natAbs ≠ 0 := by omega
  simp [ofDecimal, Decimal.ofInt, hmantissa, dropTrailingZeros]

theorem worth_ofInt (v : Int) : (ofDecimal (.ofInt v)).worth = v := by
  by_cases h : v = 0
  · subst h
    rfl
  · rw [ofDecimal_ofInt h, worth]
    simp only [sum_groups, decide_eq_true_eq]
    split
    · have hv : -(v.natAbs : Int) = v := by omega
      rw [← Rat.intCast_natCast, ← Rat.intCast_neg, hv]
    · have hv : (v.natAbs : Int) = v := by omega
      rw [← Rat.intCast_natCast, hv]

theorem isSendable_ofInt (v : Int64) : (ofDecimal (.ofInt v.toInt)).IsSendable := by
  by_cases h : v.toInt = 0
  · rw [h]
    exact ⟨by decide, by decide, by decide, by decide, nofun⟩
  · have hsize : v.toInt.natAbs < 10000 ^ 5 := by
      have hlow := v.le_toInt
      have hhigh := v.toInt_lt
      omega
    have hlength := length_groups hsize
    rw [ofDecimal_ofInt h]
    constructor
    · show (groups v.toInt.natAbs).length < 256 ^ 2
      omega
    · show -256 ^ 2 ≤ 2 * ((groups v.toInt.natAbs).length - 1 : Int)
      omega
    · show 2 * ((groups v.toInt.natAbs).length - 1 : Int) < 256 ^ 2
      omega
    · show 0 < 256 ^ 2
      decide
    · exact fun digit hdigit => lt_of_mem_groups hdigit

end Numeric

theorem receive_text {type : ParameterType} (h : type.IsTextual) (s : String) :
    receive type (type.lead ++ utf8 s) = some (.text s) := by
  unfold receive
  split
  case h_8 => rw [if_pos ⟨h, List.prefix_append ..⟩, List.drop_left, text?_utf8]; rfl
  all_goals exact absurd h (by decide)

section Bound

variable {type : ParameterType} (message : List UInt8)

def integralTypes : List ParameterType :=
  [.builtin "int2", .builtin "int4", .builtin "int8", .builtin "numeric", .builtin "text",
    .builtin "varchar", .builtin "bpchar", .builtin "name"]

theorem int_received_text (h : type.IsTextual) (v : Int64) :
    ∃ bytes, bind (.int v) type message = (message ++ bytes, .ok false) ∧
      (receive type bytes).bind Reading.number? = some (v.toInt : Rat) := by
  refine ⟨_, bind_int_text h message v, ?_⟩
  rw [receive_text h, Option.bind_some, Reading.number?, decimal?_repr]
  rfl

theorem int_received {v : Int64} (htype : type ∈ integralTypes) (h : Converts (.int v) type) :
    ∃ bytes, bind (.int v) type message = (message ++ bytes, .ok false) ∧
      (receive type bytes).bind Reading.number? = some (v.toInt : Rat) := by
  simp only [integralTypes, List.mem_cons, List.not_mem_nil, or_false] at htype
  rcases htype with rfl | rfl | rfl | rfl | htype
  · have hfits := h.1 rfl
    have hread : integer? 2 (signed 2 v.toInt) = some v.toInt :=
      integer?_signed (by omega) (by omega)
    refine ⟨_, bind_of_fits 2 rfl hfits message, ?_⟩
    simp [receive, hread, Reading.number?]
  · have hfits := h.2 rfl
    have hread : integer? 4 (signed 4 v.toInt) = some v.toInt :=
      integer?_signed (by omega) (by omega)
    refine ⟨_, bind_of_fits 4 rfl hfits message, ?_⟩
    simp [receive, hread, Reading.number?]
  · have hlow := v.le_toInt
    have hhigh := v.toInt_lt
    have hread : integer? 8 (signed 8 v.toInt) = some v.toInt :=
      integer?_signed (by omega) (by omega)
    refine ⟨signed 8 v.toInt, rfl, ?_⟩
    simp [receive, hread, Reading.number?]
  · have hread := Numeric.read?_bytes (Numeric.isSendable_ofInt v)
    refine ⟨(Numeric.ofDecimal (.ofInt v.toInt)).bytes, rfl, ?_⟩
    simp [receive, hread, Numeric.worth_ofInt, Reading.number?]
  · rcases htype with rfl | rfl | rfl | rfl <;> exact int_received_text message (by decide) v

end Bound

theorem exists_int_error_iff {v : Int64} {type : ParameterType} (htype : type ∈ integralTypes)
    (message : List UInt8) :
    (∃ e, (bind (.int v) type message).2 = .error e) ↔
      type = .builtin "int2" ∧ ¬(-2 ^ 15 ≤ v.toInt ∧ v.toInt ≤ 2 ^ 15 - 1) ∨
        type = .builtin "int4" ∧ ¬(-2 ^ 31 ≤ v.toInt ∧ v.toInt ≤ 2 ^ 31 - 1) := by
  have hpaired : ∀ type ∈ integralTypes, type ∈ integerTypes ∨ type.IsTextual := by decide
  have hpairs : Pairs (.int v) type := hpaired type htype
  rw [exists_error_iff]
  simp only [hpairs, Converts, true_and]
  by_cases h2 : type = .builtin "int2"
  · subst h2
    have hne : ParameterType.builtin "int2" ≠ .builtin "int4" := by decide
    simp only [hne, true_implies, false_implies, and_true, true_and, false_and, or_false]
    omega
  by_cases h4 : type = .builtin "int4"
  · have hne : ParameterType.builtin "int4" ≠ .builtin "int2" := by decide
    subst h4
    simp only [hne, true_implies, false_implies, true_and, false_and, false_or]
    omega
  · simp [h2, h4]

theorem receive_float (x : Binary64) :
    receive (.builtin "float8") (bigEndian 8 x.bits.toNat) = some (.float x) := by
  have hread : ofBigEndian (bigEndian 8 x.bits.toNat) = x.bits.toNat :=
    ofBigEndian_of_lt x.bits.toNat_lt
  simp [receive, hread]

/-- A server reads what was bound. An integer is found again as the number that it is in each type
that keeps integers, and only the two short types refuse some; of the other kinds of value, each is
found again in its own type bit by bit. -/
theorem values_read_back :
    (∀ (v : Int64), ∀ type ∈ integralTypes, ∀ message,
      (∀ null, (bind (.int v) type message).2 = .ok null →
        ∃ bytes, (bind (.int v) type message).1 = message ++ bytes ∧
          (receive type bytes).bind Reading.number? = some (v.toInt : Rat)) ∧
      ((∃ e, (bind (.int v) type message).2 = .error e) ↔
        type = .builtin "int2" ∧ ¬(-2 ^ 15 ≤ v.toInt ∧ v.toInt ≤ 2 ^ 15 - 1) ∨
          type = .builtin "int4" ∧ ¬(-2 ^ 31 ≤ v.toInt ∧ v.toInt ≤ 2 ^ 31 - 1))) ∧
    (∀ x message, ∃ bytes,
      bind (.float x) (.builtin "float8") message = (message ++ bytes, .ok false) ∧
        receive (.builtin "float8") bytes = some (.float x)) ∧
    (∀ s (type : ParameterType) message, type.IsTextual → ∃ bytes,
      bind (.text s) type message = (message ++ bytes, .ok false) ∧
        receive type bytes = some (.text s)) ∧
    (∀ bs message, ∃ bytes,
      bind (.bytes bs) (.builtin "bytea") message = (message ++ bytes, .ok false) ∧
        receive (.builtin "bytea") bytes = some (.bytes bs)) ∧
    ∀ b message, ∃ bytes,
      bind (.bool b) (.builtin "bool") message = (message ++ bytes, .ok false) ∧
        receive (.builtin "bool") bytes = some (.truth b) := by
  refine ⟨fun v type htype message => ⟨fun null h => ?_, exists_int_error_iff htype message⟩,
    fun x message => ⟨_, rfl, receive_float x⟩,
    fun s type message h => ⟨_, bind_text h message s, receive_text h s⟩,
    fun bs message => ⟨bs, rfl, rfl⟩, fun b message => ⟨boolBytes b, rfl, ?_⟩⟩
  · have hconverts : Converts (.int v) type := ((exists_ok_iff message).mp ⟨null, h⟩).2
    obtain ⟨bytes, hbind, hread⟩ := int_received message htype hconverts
    exact ⟨bytes, by rw [hbind], hread⟩
  · cases b <;> rfl

/-- The smallest integer as a decimal number, behind a byte that was written before. -/
theorem smallest_read_back :
    ParameterType.builtin "numeric" ∈ integralTypes ∧
    (bind (.int Int64.minValue) (.builtin "numeric") [7]).2 = .ok false ∧
    ∃ bytes, (bind (.int Int64.minValue) (.builtin "numeric") [7]).1 = [7] ++ bytes ∧
      (receive (.builtin "numeric") bytes).bind Reading.number? =
        some (Int64.minValue.toInt : Rat) := by
  have hmem : ParameterType.builtin "numeric" ∈ integralTypes := by decide
  exact ⟨hmem, rfl, (values_read_back.1 Int64.minValue _ hmem [7]).1 false rfl⟩

end Wire
end RowBatch
