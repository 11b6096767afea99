/-
Weather readings in text.

The atmosphere agent writes a temperature and a wind speed into a claim, and the simulation agent
cuts them out again.  No class of the two patterns has a colon, a degree sign, a comma or the
`k` of the unit, so the claim falls into parts that are searched one after the other: the
location, then the reading itself.  Of a reading, what is captured ends at its first character
that is neither a digit nor a dot.
-/
import GaiaOS.Agents.Atmosphere
import GaiaOS.Proofs.SimulationReturns

namespace GaiaOS

namespace SimulationAgent

open Regex

/-! ### A word and its figure -/

section AfterWord

/-- The pattern of a reading in a claim. -/
def afterWord (word : String) : Pattern Char := figureAfter (.word (caselessLiteral word))

variable {word : String} {first : Char} {letters : List Char}
  (hword : word.toList = first :: letters)
include hword

/-- A match starts with the first letter of the word. -/
theorem ways_afterWord_of_ne {c : Char} (hc : caseless first c = false) (text : List Char) :
    (afterWord word).ways ⟨none, c :: text⟩ = [] := by
  unfold afterWord figureAfter Pattern.capturing caselessLiteral
  rw [hword]
  simp [Pattern.word, Pattern.ways, hc]

theorem ways_afterWord_nil : (afterWord word).ways ⟨none, []⟩ = [] := by
  unfold afterWord figureAfter Pattern.capturing caselessLiteral
  rw [hword]
  simp [Pattern.word, Pattern.ways]

/-- Text without the first letter of the word is passed over. -/
theorem figure_pass {passed : List Char} (h : ∀ c ∈ passed, caseless first c = false)
    (text : List Char) :
    (afterWord word).figure (passed ++ text) = (afterWord word).figure text := by
  unfold Pattern.figure
  rw [search_append_of_ways_nil fun c hc => ways_afterWord_of_ne hword (h c hc)]

/-- A text is searched before and after a character no class has. -/
theorem figure_cut {c : Char} (hc : (afterWord word).avoids c = true) (text tail : List Char) :
    (afterWord word).figure (text ++ c :: tail) =
      ((afterWord word).figure text).or ((afterWord word).figure tail) :=
  figure_append_stop hc (ways_afterWord_nil hword) text tail

omit hword in
/-- The figure after the word and a space. -/
theorem figure_read {read tail : List Char} (hne : read ≠ [])
    (hread : ∀ c ∈ read, isFigureChar c = true) (htail : ∀ c ∈ tail.head?, isFigureChar c = false) :
    (afterWord word).figure (word.toList ++ ([' '] ++ (read ++ tail))) = some read := by
  refine figure_word_spaces (forall₂_caselessLiteral word) (fun c hc => ?_) (fun c hc => ?_)
    hne htail
  · rw [List.mem_singleton.mp hc]
    rfl
  · exact ⟨hread c hc, not_space_of_isFigureChar (hread c hc)⟩

end AfterWord

/-! ### The text of the claim -/

/-- The words of the two readings, each with its first letter. -/
theorem temperature_word : "Temperature is".toList = 'T' :: "emperature is".toList := rfl

theorem windSpeed_word : "Wind Speed is".toList = 'W' :: "ind Speed is".toList := rfl

theorem toLower_of_isFigureChar {c : Char} (h : isFigureChar c = true) : c.toLower = c := by
  rcases toLower_cases c with hsame | ⟨n, ⟨hlow, hhigh⟩, rfl⟩
  · exact hsame
  · have hrange := toNat_of_isFigureChar h
    have htoNat : (Char.ofNat n).toNat = n := by
      interval_cases n <;> rfl
    omega

/-- The text of a float has neither letter. -/
theorem caseless_floatRepr {x : FiniteFloat} {c : Char} (hc : c ∈ (floatRepr x).toList) :
    caseless 'T' c = false ∧ caseless 'W' c = false := by
  rcases FiniteFloat.mem_floatRepr hc with hfigure | rfl | rfl | rfl
  · have hlower := toLower_of_isFigureChar hfigure
    have ht : c ≠ 't' := by
      rintro rfl
      exact absurd hfigure (by decide)
    have hw : c ≠ 'w' := by
      rintro rfl
      exact absurd hfigure (by decide)
    constructor
    · simp [caseless, hlower, ht]
    · simp [caseless, hlower, hw]
  · decide
  · decide
  · decide

theorem passes_of_all {first : Char} {passed : List Char}
    (h : (passed.all fun c => !caseless first c) = true) :
    ∀ c ∈ passed, caseless first c = false := by
  intro c hc
  simpa using List.all_eq_true.mp h c hc

section Claim

variable (location : String) (current : AtmosphereAgent.CurrentWeather)

/-- The claim after the wind speed and the first letter of its unit. -/
def afterUnit : List Char :=
  "m/h, and Relative Humidity is ".toList ++ (current.relativeHumidity2m.toList ++ "%.".toList)

/-- The claim from the wind speed on. -/
def windPart : List Char :=
  "Wind Speed is".toList ++ ([' '] ++ ((floatRepr current.windSpeed10m).toList ++
    ([' '] ++ 'k' :: afterUnit current)))

/-- The claim after the colon. -/
def weatherPart : List Char :=
  [' '] ++ ("Temperature is".toList ++ ([' '] ++ ((floatRepr current.temperature2m).toList ++
    '°' :: ("C".toList ++ ',' :: ([' '] ++ windPart current)))))

theorem toList_claim : (AtmosphereAgent.claim location current).toList =
    "Current atmospheric conditi".toList ++ 'o' :: ("ns in ".toList ++
      (location.toList ++ ':' :: weatherPart current)) := by
  unfold AtmosphereAgent.claim weatherPart windPart afterUnit
  simp

/-- A reading is searched in the location and then in the weather. -/
theorem figure_claim {word : String} {first : Char} {letters : List Char}
    (hword : word.toList = first :: letters) (ho : (afterWord word).avoids 'o' = true)
    (hcolon : (afterWord word).avoids ':' = true)
    (hstart : (afterWord word).figure "Current atmospheric conditi".toList = none)
    (hpass : ∀ c ∈ "ns in ".toList, caseless first c = false) :
    group1 (afterWord word) (AtmosphereAgent.claim location current) =
      (group1 (afterWord word) location).or ((afterWord word).figure (weatherPart current)) := by
  rw [group1, toList_claim, figure_cut hword ho, hstart, figure_pass hword hpass,
    figure_cut hword hcolon]
  rfl

/-- The temperature follows its words. -/
theorem figure_weatherPart_temperature {read tail : List Char}
    (htext : (floatRepr current.temperature2m).toList ++
      '°' :: ("C".toList ++ ',' :: ([' '] ++ windPart current)) = read ++ tail)
    (hne : read ≠ []) (hread : ∀ c ∈ read, isFigureChar c = true)
    (htail : ∀ c ∈ tail.head?, isFigureChar c = false) :
    (afterWord "Temperature is").figure (weatherPart current) = some read := by
  rw [weatherPart, figure_pass temperature_word (passes_of_all (by decide)), htext]
  exact figure_read hne hread htail

/-- The temperature is passed over in search of the wind speed. -/
theorem figure_weatherPart_windSpeed :
    (afterWord "Wind Speed is").figure (weatherPart current) =
      (afterWord "Wind Speed is").figure (windPart current) := by
  have hpass : ∀ c ∈ [' '] ++ ("Temperature is".toList ++ ([' '] ++
      ((floatRepr current.temperature2m).toList ++ ("°C, ".toList)))),
      caseless 'W' c = false := by
    intro c hc
    simp only [List.mem_append] at hc
    rcases hc with hc | hc | hc | hc | hc
    · exact passes_of_all (by decide) c hc
    · exact passes_of_all (by decide) c hc
    · exact passes_of_all (by decide) c hc
    · exact (caseless_floatRepr hc).2
    · exact passes_of_all (by decide) c hc
  have hsplit : weatherPart current = [' '] ++ ("Temperature is".toList ++ ([' '] ++
      ((floatRepr current.temperature2m).toList ++ ("°C, ".toList)))) ++ windPart current := by
    simp [weatherPart]
  rw [hsplit, figure_pass windSpeed_word hpass]

theorem figure_windPart {read tail : List Char}
    (htext : (floatRepr current.windSpeed10m).toList ++ ([' '] ++ 'k' :: afterUnit current) =
      read ++ tail)
    (hne : read ≠ []) (hread : ∀ c ∈ read, isFigureChar c = true)
    (htail : ∀ c ∈ tail.head?, isFigureChar c = false) :
    (afterWord "Wind Speed is").figure (windPart current) = some read := by
  unfold windPart
  rw [htext]
  exact figure_read hne hread htail

theorem group1_temperature : group1 temperature.inClaim (AtmosphereAgent.claim location current) =
    (group1 temperature.inClaim location).or
      ((afterWord "Temperature is").figure (weatherPart current)) :=
  figure_claim location current temperature_word (by decide) (by decide) (by decide)
    (passes_of_all (by decide))

theorem group1_windSpeed : group1 windSpeed.inClaim (AtmosphereAgent.claim location current) =
    (group1 windSpeed.inClaim location).or
      ((afterWord "Wind Speed is").figure (windPart current)) := by
  rw [← figure_weatherPart_windSpeed]
  exact figure_claim location current windSpeed_word (by decide) (by decide) (by decide)
    (passes_of_all (by decide))

end Claim

/-! ### The trip through text -/

/-- The claim is the first of the prior evidence with a temperature or a wind speed. -/
def MentionsFirst (claims : List String) (claim : String) : Prop :=
  ∃ before after, claims = before ++ claim :: after ∧
    ∀ earlier ∈ before, ∀ r ∈ [temperature, windSpeed], group1 r.inClaim earlier = none

/-- What was read is the float.  A figure has no sign, so the zero that is read has none. -/
def IsRead (read : Option PyFloat) (x : FiniteFloat) : Prop :=
  read = some (.finite x.toRat) ∧ (x.magnitude = 0 → x.negative = false)

/-- The rainfall and the anomaly that are read are numbers, so that they do not stop the call. -/
def OthersReadable (lower : String → String) (query : String)
    (priorOutputs : Option (List AgentOutput)) : Prop :=
  ∀ r ∈ [rainfall, sstAnomaly], ∀ figure, figureFor lower query priorOutputs r = some figure →
    IsNumber figure

/-- The float is written without sign and exponent, or the location has a figure of the parameter
and it is the float. -/
def ReadsAs (r : Reading) (location : String) (x : FiniteFloat) : Prop :=
  match group1 r.inClaim location with
  | none => x.IsPlain
  | some figure => IsRead (floatOfFigure figure).toOption x

theorem readsAs_iff_of_none {r : Reading} {location : String} {x : FiniteFloat}
    (h : group1 r.inClaim location = none) : ReadsAs r location x ↔ x.IsPlain := by
  unfold ReadsAs
  rw [h]

section Trip

variable {r : Reading} {location : String} {x : FiniteFloat} {found rest : Option (List Char)}

theorem isRead_of_isPlain (h : x.IsPlain) :
    IsRead (floatOfFigure (floatRepr x).toList).toOption x := by
  rw [(FiniteFloat.floatRepr_of_isPlain h).2.2]
  exact ⟨rfl, fun _ => h.1⟩

/-- What a figure shows is not negative. -/
theorem nonneg_of_floatOfFigure {figure : List Char} {q : ℚ}
    (h : (floatOfFigure figure).toOption = some (.finite q)) : 0 ≤ q := by
  cases hfloat : floatOfFigure figure with
  | error err =>
      rw [hfloat] at h
      cases h
  | ok y =>
      rw [hfloat] at h
      obtain rfl : y = .finite q := Option.some_inj.mp h
      simp only [floatOfFigure] at hfloat
      split at hfloat
      · cases hfloat
      · obtain ⟨rfl, -⟩ := PyFloat.ofRat_eq_finite (Except.ok.inj hfloat)
        exact double_nonneg (by positivity)

/-- **A reading survives** exactly as the location and the text of the float say: `found` is what
follows the words of the claim, and `rest` what is found after the claim. -/
theorem isRead_iff
    (hplain : x.IsPlain → found = some (floatRepr x).toList)
    (hfigure : ∀ figure tail, (floatRepr x).toList = figure ++ 'e' :: tail → figure ≠ [] →
      (∀ c ∈ figure, isFigureChar c = true) → found = some figure) :
    IsRead ((((group1 r.inClaim location).or found).or rest).bind fun figure =>
      (floatOfFigure figure).toOption) x ↔ ReadsAs r location x := by
  unfold ReadsAs
  cases group1 r.inClaim location with
  | some figure => exact Iff.rfl
  | none =>
      rw [Option.none_or]
      constructor
      · intro hread
        by_contra hnot
        rcases FiniteFloat.floatRepr_of_not_isPlain hnot with
          ⟨hnegative, -⟩ | ⟨figure, tail, y, htext, hne, hall, hy, hother⟩
        · -- a figure, wherever it stands, shows no negative number
          obtain ⟨figure, -, hvalue⟩ := Option.bind_eq_some_iff.mp hread.1
          have hnonneg := nonneg_of_floatOfFigure hvalue
          rw [FiniteFloat.toRat, hnegative, if_pos rfl, Left.nonneg_neg_iff] at hnonneg
          have hzero := hread.2 (le_antisymm hnonneg x.nonneg)
          rw [hnegative] at hzero
          cases hzero
        · have hvalue := hread.1
          rw [hfigure figure tail htext hne hall, Option.some_or, Option.bind_some, hy] at hvalue
          exact hother (Option.some_inj.mp hvalue)
      · intro h
        rw [hplain h, Option.some_or, Option.bind_some]
        exact isRead_of_isPlain h

end Trip

section Call

variable {lower : String → String} {query : String} {priorOutputs : Option (List AgentOutput)}
  {location : String} {current : AtmosphereAgent.CurrentWeather}

/-- What is found after the claims before are passed over. -/
theorem figureFor_eq {r : Reading} {before after : List String} {claim : String}
    (hclaims : claimsOf priorOutputs = before ++ claim :: after)
    (hbefore : ∀ earlier ∈ before, group1 r.inClaim earlier = none) :
    figureFor lower query priorOutputs r = (group1 r.inClaim claim).or
      ((after.findSome? (group1 r.inClaim)).or (group1 r.inQuery (lower query))) := by
  have hnone : before.findSome? (group1 r.inClaim) = none :=
    List.findSome?_eq_none_iff.mpr hbefore
  rw [figureFor, hclaims, List.findSome?_append, hnone, List.findSome?_cons]
  cases group1 r.inClaim claim with
  | none => rfl
  | some figure => rfl

theorem isRead_temperature_iff
    (h : MentionsFirst (claimsOf priorOutputs) (AtmosphereAgent.claim location current)) :
    IsRead ((figureFor lower query priorOutputs temperature).bind fun figure =>
      (floatOfFigure figure).toOption) current.temperature2m ↔
        ReadsAs temperature location current.temperature2m := by
  obtain ⟨before, after, hclaims, hbefore⟩ := h
  rw [figureFor_eq hclaims fun earlier hearlier => hbefore earlier hearlier temperature (by simp),
    group1_temperature]
  refine isRead_iff (fun hplain => ?_) fun figure tail htext hne hall => ?_
  · obtain ⟨hne, hall, -⟩ := FiniteFloat.floatRepr_of_isPlain hplain
    exact figure_weatherPart_temperature current rfl hne hall (by simp; decide)
  · exact figure_weatherPart_temperature current (by rw [htext, List.append_assoc]) hne hall
      (by simp; decide)

theorem isRead_windSpeed_iff
    (h : MentionsFirst (claimsOf priorOutputs) (AtmosphereAgent.claim location current)) :
    IsRead ((figureFor lower query priorOutputs windSpeed).bind fun figure =>
      (floatOfFigure figure).toOption) current.windSpeed10m ↔
        ReadsAs windSpeed location current.windSpeed10m := by
  obtain ⟨before, after, hclaims, hbefore⟩ := h
  rw [figureFor_eq hclaims fun earlier hearlier => hbefore earlier hearlier windSpeed (by simp),
    group1_windSpeed]
  refine isRead_iff (fun hplain => ?_) fun figure tail htext hne hall => ?_
  · obtain ⟨hne, hall, -⟩ := FiniteFloat.floatRepr_of_isPlain hplain
    exact figure_windPart current rfl hne hall (by simp; decide)
  · exact figure_windPart current (by rw [htext, List.append_assoc]) hne hall
      (by simp; decide)

/-- A figure that is read is a number. -/
theorem isNumber_of_isRead {r : Reading} (hr : r ∈ readings) {x : FiniteFloat}
    (h : IsRead ((figureFor lower query priorOutputs r).bind fun figure =>
      (floatOfFigure figure).toOption) x) {figure : List Char}
    (hfigure : figureFor lower query priorOutputs r = some figure) : IsNumber figure := by
  refine (floatOfFigure_ok_iff (isFigureChar_of_figureFor hr hfigure)).mp ?_
  have hvalue := h.1
  rw [hfigure, Option.bind_some] at hvalue
  cases hfloat : floatOfFigure figure with
  | error err =>
      rw [hfloat] at hvalue
      cases hvalue
  | ok y => exact ⟨y, rfl⟩

/-- The call returns what the claim's weather was. -/
def WeatherReturned (lower : String → String) (query : String)
    (priorOutputs : Option (List AgentOutput)) (current : AtmosphereAgent.CurrentWeather) : Prop :=
  ∃ params, extractParameters lower query priorOutputs = .ok params ∧
    IsRead (params.get? "temperature") current.temperature2m ∧
    IsRead (params.get? "wind_speed") current.windSpeed10m

theorem weatherReturned_iff
    (h : MentionsFirst (claimsOf priorOutputs) (AtmosphereAgent.claim location current)) :
    WeatherReturned lower query priorOutputs current ↔
      OthersReadable lower query priorOutputs ∧
        ReadsAs temperature location current.temperature2m ∧
        ReadsAs windSpeed location current.windSpeed10m := by
  have hget : ∀ {params}, extractParameters lower query priorOutputs = .ok params →
      params.get? "temperature" = (figureFor lower query priorOutputs temperature).bind
        (fun figure => (floatOfFigure figure).toOption) ∧
      params.get? "wind_speed" = (figureFor lower query priorOutputs windSpeed).bind
        (fun figure => (floatOfFigure figure).toOption) := fun hparams =>
    ⟨get?_of_extractParameters hparams (r := temperature) (by simp [readings]),
      get?_of_extractParameters hparams (r := windSpeed) (by simp [readings])⟩
  rw [← @isRead_temperature_iff lower query priorOutputs location current h,
    ← @isRead_windSpeed_iff lower query priorOutputs location current h]
  constructor
  · rintro ⟨params, hparams, htemp, hwind⟩
    rw [(hget hparams).1] at htemp
    rw [(hget hparams).2] at hwind
    have hnumbers := (extractParameters_ok_iff lower query priorOutputs).mp ⟨params, hparams⟩
    refine ⟨fun r hr => hnumbers r ?_, htemp, hwind⟩
    rcases List.mem_pair.mp hr with rfl | rfl
    · simp [readings]
    · simp [readings]
  · rintro ⟨hothers, htemp, hwind⟩
    have hnumbers : ∀ r ∈ readings, ∀ figure,
        figureFor lower query priorOutputs r = some figure → IsNumber figure := by
      intro r hr figure hfigure
      simp only [readings, List.mem_cons, List.not_mem_nil, or_false] at hr
      rcases hr with rfl | rfl | rfl | rfl
      · exact isNumber_of_isRead (by simp [readings]) hwind hfigure
      · exact isNumber_of_isRead (by simp [readings]) htemp hfigure
      · exact hothers rainfall (by simp) figure hfigure
      · exact hothers sstAnomaly (by simp) figure hfigure
    obtain ⟨params, hparams⟩ := (extractParameters_ok_iff lower query priorOutputs).mpr hnumbers
    refine ⟨params, hparams, ?_, ?_⟩
    · rw [(hget hparams).1]
      exact htemp
    · rw [(hget hparams).2]
      exact hwind

/-- The readings survive exactly if both are written without sign and exponent, whatever stands
around the claim, and nothing else that is read stops the call. -/
theorem readings_survive_iff
    (h : MentionsFirst (claimsOf priorOutputs) (AtmosphereAgent.claim location current)) :
    WeatherReturned lower query priorOutputs current ↔
      OthersReadable lower query priorOutputs ∧
        ReadsAs temperature location current.temperature2m ∧
        ReadsAs windSpeed location current.windSpeed10m := weatherReturned_iff h

end Call

/-! ### Two days in Paris -/

/-- Five degrees above or below zero, and a wind of three. -/
def parisWeather (below : Bool) : AtmosphereAgent.CurrentWeather where
  temperature2m :=
    { negative := below
      magnitude := 5
      nonneg := by norm_num
      isDouble := by decide +kernel
      lt_limit := by decide +kernel }
  windSpeed10m :=
    { negative := false
      magnitude := 3
      nonneg := by norm_num
      isDouble := by decide +kernel
      lt_limit := by decide +kernel }
  relativeHumidity2m := "55"

/-- The report comes after one about the other two parameters. -/
def parisReports (below : Bool) : Option (List AgentOutput) :=
  some [⟨"hydrology", [reported "Rainfall is 5, SST anomaly is 1"], []⟩,
    ⟨"atmosphere", [reported (AtmosphereAgent.claim "Paris" (parisWeather below))], []⟩]

theorem mentionsFirst_parisReports (below : Bool) :
    MentionsFirst (claimsOf (parisReports below))
      (AtmosphereAgent.claim "Paris" (parisWeather below)) := by
  refine ⟨["Rainfall is 5, SST anomaly is 1"], [], rfl, fun earlier hearlier => ?_⟩
  rw [List.mem_singleton.mp hearlier]
  decide +kernel

theorem othersReadable_parisReports (lower : String → String) (query : String) (below : Bool) :
    OthersReadable lower query (parisReports below) := by
  have hfirst : ∀ r figure, group1 r.inClaim "Rainfall is 5, SST anomaly is 1" = some figure →
      figureFor lower query (parisReports below) r = some figure := by
    intro r figure hfigure
    rw [figureFor]
    simp [claimsOf, parisReports, reported, hfigure]
  intro r hr figure hfigure
  rcases List.mem_pair.mp hr with rfl | rfl
  · rw [hfirst rainfall ['5'] (by decide)] at hfigure
    obtain rfl := Option.some_inj.mp hfigure
    decide
  · rw [hfirst sstAnomaly ['1'] (by decide)] at hfigure
    obtain rfl := Option.some_inj.mp hfigure
    decide

/-- Five degrees above zero are read. -/
theorem above_zero_is_read : WeatherReturned id "" (parisReports false) (parisWeather false) := by
  refine (readings_survive_iff (mentionsFirst_parisReports false)).mpr
    ⟨othersReadable_parisReports id "" false, ?_, ?_⟩
  · exact (readsAs_iff_of_none (by decide)).mpr (by decide +kernel)
  · exact (readsAs_iff_of_none (by decide)).mpr (by decide +kernel)

/-- A temperature below zero is not read. -/
theorem below_zero_is_lost :
    ¬ ∀ lower query priorOutputs location current,
      MentionsFirst (claimsOf priorOutputs) (AtmosphereAgent.claim location current) →
        WeatherReturned lower query priorOutputs current := by
  intro h
  have hreturned := h id "" (parisReports true) "Paris" (parisWeather true)
    (mentionsFirst_parisReports true)
  have htemp := ((weatherReturned_iff (mentionsFirst_parisReports true)).mp hreturned).2.1
  have hplain := (readsAs_iff_of_none (by decide)).mp htemp
  exact absurd hplain.1 (by decide)

end SimulationAgent

end GaiaOS
