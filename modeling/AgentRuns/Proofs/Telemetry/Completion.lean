import AgentRuns.Proofs.Text.Lines
import AgentRuns.Telemetry.Endpoint

/-!
# Bases with and without a slash

A signal's path is appended to its base, without the version if the base ends with it.
So every endpoint ends with the path, and an endpoint is its own endpoint.

A slash at the end of the base does not count, but it is dropped only once the base
was found not to end with the path. Behind a base that ends with the path already, a
slash hides the path: it is appended once more. Endpoints are such bases, so an endpoint
with a slash never is its own endpoint.
-/

namespace AgentRuns

namespace Text

/-- A text ends with another one if that is a suffix of it. -/
theorem endsWith_iff (text ending : Text) : text.endsWith ending = true ↔ ending <:+ text :=
  List.isSuffixOf_iff_suffix

/-- What ends with a part has the last character of the part, if the part has one. -/
theorem getLast?_of_endsWith (text ending : Text) (someEnding : ending ≠ [])
    (ends : text.endsWith ending = true) : text.getLast? = ending.getLast? := by
  obtain ⟨before, rfl⟩ := (endsWith_iff text ending).mp ends
  rw [List.getLast?_append_of_ne_nil _ someEnding]

end Text

namespace Telemetry

/-- The paths that signals are sent to. -/
def signalPaths : List Text := ["/v1/traces", "/v1/metrics"]

/-- A path below the version that does not end as the version, a slash or a blank does. -/
structure SignalPath (path : Text) : Prop where
  versioned : version <+: path
  ending : ∃ last, path.getLast? = some last ∧ version.getLast? ≠ some last ∧
    last ≠ .char '/' ∧ Text.isBlank last = false

/-- The paths of the two signals are such paths. Each of them is looked at. -/
theorem signalPath_of_mem (path : Text) (signal : path ∈ signalPaths) : SignalPath path := by
  simp only [signalPaths, List.mem_cons, List.not_mem_nil, or_false] at signal
  rcases signal with rfl | rfl
  · exact ⟨List.isPrefixOf_iff_prefix.mp (by decide), .char 's', by decide⟩
  · exact ⟨List.isPrefixOf_iff_prefix.mp (by decide), .char 's', by decide⟩

/-- A base without a slash, completed by a path. -/
def completed (base path : Text) : Text :=
  if base.endsWith version then base ++ path.drop version.length else base ++ path

section

variable {base path : Text} (signal : SignalPath path) (tight : Text.Tight base)

include signal in
/-- The path of a signal is not empty, since it has a last character. -/
theorem SignalPath.ne_nil : path ≠ [] := by
  obtain ⟨last, ends, _⟩ := signal.ending
  rintro rfl
  cases ends

include signal in
/-- What ends with the path does not end with the version. The two have different last
    characters. -/
theorem SignalPath.endsWith_version (text : Text) (ends : text.endsWith path = true) :
    text.endsWith version = false := by
  rw [Bool.eq_false_iff]
  intro versioned
  obtain ⟨last, isLast, notVersion, _⟩ := signal.ending
  have same := Text.getLast?_of_endsWith text version (by decide) versioned
  rw [Text.getLast?_of_endsWith text path signal.ne_nil ends, isLast] at same
  exact notVersion same.symm

include signal in
/-- What ends with a slash does not end with the path. This is why the form of an address with
    a slash is not recognized. -/
theorem SignalPath.endsWith_slashed (text : Text) : (text ++ "/").endsWith path = false := by
  rw [Bool.eq_false_iff]
  intro ends
  obtain ⟨last, isLast, _, notSlash, _⟩ := signal.ending
  have same := Text.getLast?_of_endsWith (text ++ "/") path signal.ne_nil ends
  rw [isLast, List.getLast?_append_of_ne_nil _ (by decide)] at same
  exact notSlash (Option.some.inj same).symm

include signal in
/-- A completed base ends with the path, whether or not the version was there. The version is
    part of the path and is not written twice. -/
theorem endsWith_completed : (completed base path).endsWith path = true := by
  rw [Text.endsWith_iff, completed]
  split
  · rename_i versioned
    obtain ⟨before, rfl⟩ := (Text.endsWith_iff base version).mp versioned
    obtain ⟨segment, rfl⟩ := signal.versioned
    rw [List.drop_left, List.append_assoc]
    exact List.suffix_append _ _
  · exact List.suffix_append _ _

include signal in
/-- A base that ends with the path gets it once more. It does not end with the version, so
    nothing is left out. -/
theorem completed_of_endsWith (ends : base.endsWith path = true) :
    completed base path = base ++ path := by
  rw [completed, if_neg]
  rw [signal.endsWith_version base ends]
  exact Bool.false_ne_true

include signal tight in
/-- A completed base is tight if the base is. What is put behind it has a visible end. -/
theorem tight_completed : Text.Tight (completed base path) := by
  obtain ⟨more, whole⟩ : ∃ more, completed base path = base ++ more := by
    unfold completed
    split
    · exact ⟨_, rfl⟩
    · exact ⟨path, rfl⟩
  constructor
  case someText => simp [whole, tight.someText]
  case start =>
    rw [whole, List.head?_append_of_ne_nil _ tight.someText]
    exact tight.start
  case ending =>
    obtain ⟨last, isLast, _, _, visible⟩ := signal.ending
    rw [Text.getLast?_of_endsWith _ path signal.ne_nil (endsWith_completed signal), isLast]
    intro c same
    cases same
    exact visible

include tight in
/-- An address that ends with the path is taken as it is. Blanks around it were stripped
    before. -/
theorem endpoint_of_endsWith (ends : base.endsWith path = true) :
    endpoint (some base) path = base := by
  simp [endpoint, Text.strip_tight base tight, ends]

include tight in
/-- Any other one without a slash is completed. -/
theorem endpoint_of_incomplete (incomplete : base.endsWith path = false)
    (unslashed : base.endsWith "/" = false) : endpoint (some base) path = completed base path := by
  simp [endpoint, Text.strip_tight base tight, incomplete, unslashed, tight.someText, completed]

include signal tight in
/-- One with a slash is completed as if the slash were not there, but also if it ends with
    the path before the slash. -/
theorem endpoint_slashed : endpoint (some (base ++ "/")) path = completed base path := by
  have slash : Text.isBlank (.char '/') = false := by decide
  have whole := tight.extend "/" (.char '/') rfl slash
  have slashed : (base ++ "/").endsWith "/" = true :=
    (Text.endsWith_iff _ _).mpr (List.suffix_append base "/")
  have dropped : (base ++ "/").dropLast = base := List.dropLast_concat
  simp [endpoint, Text.strip_tight _ whole, signal.endsWith_slashed base, slashed, dropped,
    tight.someText, completed]

include signal tight in
/-- The endpoint of a base without a slash ends with the path, whether it was complete before
    or not. -/
theorem endsWith_endpoint (unslashed : base.endsWith "/" = false) :
    (endpoint (some base) path).endsWith path = true := by
  by_cases ends : base.endsWith path = true
  · rwa [endpoint_of_endsWith tight ends]
  · rw [endpoint_of_incomplete tight (Bool.eq_false_iff.mpr ends) unslashed]
    exact endsWith_completed signal

include signal tight in
/-- The endpoint of a base without a slash is tight if the base is. So it can be given as a
    base again. -/
theorem tight_endpoint (unslashed : base.endsWith "/" = false) :
    Text.Tight (endpoint (some base) path) := by
  by_cases ends : base.endsWith path = true
  · rwa [endpoint_of_endsWith tight ends]
  · rw [endpoint_of_incomplete tight (Bool.eq_false_iff.mpr ends) unslashed]
    exact tight_completed signal tight

end

/-- The endpoint of a base without outer blanks and without a slash at its end. It ends with
    the path and is its own endpoint. With a slash the base has the same endpoint exactly if
    it does not end with the path already. The endpoint with a slash always gets the path
    once more. -/
theorem endpoint_of_base (base path : Text) (signal : path ∈ signalPaths)
    (someBase : base ≠ []) (trimmed : Text.strip base = base)
    (unslashed : base.endsWith "/" = false) :
    (endpoint (some base) path).endsWith path = true ∧
      endpoint (some (endpoint (some base) path)) path = endpoint (some base) path ∧
      (endpoint (some (base ++ "/")) path = endpoint (some base) path ↔
        base.endsWith path = false) ∧
      endpoint (some (endpoint (some base) path ++ "/")) path =
        endpoint (some base) path ++ path := by
  have isSignal := signalPath_of_mem path signal
  have notBlank : Text.allBlank base = false := by
    rw [Bool.eq_false_iff, ne_eq, ← Text.strip_eq_nil, trimmed]
    exact someBase
  have tight : Text.Tight base := trimmed ▸ Text.tight_strip base notBlank
  have ends := endsWith_endpoint isSignal tight unslashed
  have whole := tight_endpoint isSignal tight unslashed
  refine ⟨ends, endpoint_of_endsWith whole ends, ?_, ?_⟩
  · rw [endpoint_slashed isSignal tight]
    constructor
    · intro same
      rw [Bool.eq_false_iff]
      intro complete
      rw [endpoint_of_endsWith tight complete, completed_of_endsWith isSignal complete,
        List.append_right_eq_self] at same
      exact isSignal.ne_nil same
    · intro incomplete
      exact (endpoint_of_incomplete tight incomplete unslashed).symm
  · rw [endpoint_slashed isSignal whole, completed_of_endsWith isSignal ends]

/-- A base that ends with the version is completed, with a slash or without. Both ways come to
    one endpoint. -/
theorem versioned_base_with_slash :
    Text.strip "http://collector:4318/v1" = "http://collector:4318/v1" ∧
      endpoint (some "http://collector:4318/v1/") "/v1/metrics" =
        endpoint (some "http://collector:4318/v1") "/v1/metrics" := by
  have trimmed : Text.strip "http://collector:4318/v1" = "http://collector:4318/v1" := by decide
  obtain ⟨_, _, slash, _⟩ := endpoint_of_base "http://collector:4318/v1" "/v1/metrics"
    (by decide) (by decide) trimmed (by decide)
  exact ⟨trimmed, slash.mpr (by decide)⟩

/-- A slash behind a base that ends with the path doubles the path. Without the slash the base
    is taken as it is. -/
theorem slash_doubles_path :
    ("/v1/traces" : Text) ∈ signalPaths ∧ Text.strip "http://c/v1/traces" = "http://c/v1/traces" ∧
      Text.endsWith "http://c/v1/traces" "/" = false ∧
      endpoint (some "http://c/v1/traces/") "/v1/traces" = "http://c/v1/traces/v1/traces" ∧
      endpoint (some "http://c/v1/traces/") "/v1/traces" ≠
        endpoint (some "http://c/v1/traces") "/v1/traces" := by
  decide

end Telemetry

end AgentRuns
