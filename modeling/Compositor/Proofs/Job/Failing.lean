import Compositor.Proofs.Job.Publicity
import Compositor.Proofs.Text.Words

/-!
# How calls to the job service fail

A call that gets no response, or one with an error status, ends in an error of the service. The
error carries the status and the document of the response, and what it says about a job depends
on the status first and then on the text of the document, in whatever letter case. A call ends in
another way only if its response is no error and no document either, if a document is nested too
deep, or if the exchange fails in a way that the library for requests does not know.
-/
namespace Compositor

/-! ## What an error says -/

/-- A document with a text about an error that says that a job failed. -/
def Json.TellsFailure (data : Json) : Prop :=
  ∃ fields v, data = .obj fields ∧ Json.lookup? fields "error" = some v ∧ v.isTruthy = true ∧
    ∃ word ∈ ["processing", "failed"], Text.Mentions v.text word

/-- An error that is made of a status and a document: the status decides about its kind, else the
text of the document. -/
structure ApiError.Reports (e : ApiError) (status : Int) (data : Json) : Prop where
  status_eq : e.status = some status
  data_eq : e.data = data
  unauthorized : status = 401 → e.kind = .general
  unpaid : status = 402 → e.kind = .insufficientCredits
  missing : status = 404 → e.kind = .notFound
  other : status ≠ 401 → status ≠ 402 → status ≠ 404 →
    (e.kind = .processing ∨ e.kind = .general) ∧ (e.kind = .processing ↔ data.TellsFailure)

namespace Client

theorem failureWords_strict : ∀ word ∈ ["processing", "failed"],
    (∀ c ∈ word.toList, Text.IsStrict c) ∧ word.toList.getLast? ≠ some 'i' :=
  Text.strict_of_all (by decide +kernel)

theorem tellsFailure_iff {message : String} : tellsFailure message = true ↔
    ∃ word ∈ ["processing", "failed"], Text.Mentions message word := by
  rw [tellsFailure, List.any_eq_true]
  refine exists_congr fun word => and_congr_right fun hword => ?_
  obtain ⟨hstrict, hlast⟩ := failureWords_strict word hword
  exact Text.contains_lower_iff hstrict hlast

/-- A number is written without letters. -/
theorem toNat_of_mem_toString {n : Int} {c : Char} (h : c ∈ (toString n).toList) :
    c.toNat < 65 := by
  have hdigit {m : Nat} (h : c ∈ (Nat.repr m).toList) : c.toNat < 65 := by
    have hc : c.isDigit = true :=
      Nat.isDigit_of_mem_toDigits (by decide) (by decide) (Nat.toList_repr ▸ h)
    have hrange : 48 ≤ c.toNat ∧ c.toNat ≤ 57 := by
      simpa [Char.isDigit, UInt32.le_iff_toNat_le] using hc
    omega
  cases n with
  | ofNat m => exact hdigit h
  | negSucc m =>
    have hminus : (toString (Int.negSucc m)).toList = '-' :: (Nat.repr (m + 1)).toList :=
      String.toList_append
    rw [hminus] at h
    rcases List.mem_cons.mp h with rfl | h
    · decide
    · exact hdigit h

/-- The text of an error that tells nothing but its status says nothing about a job. -/
theorem not_tellsFailure_status (status : Int) :
    ¬ tellsFailure ("HTTP " ++ toString status) = true := by
  have hletter {c : Char} (h : c ∈ ("HTTP " ++ toString status).toList) :
      c.toLower ≠ 'r' ∧ c.toLower ≠ 'f' := by
    rw [String.toList_append, List.mem_append] at h
    rcases h with h | h
    · have hall : ("HTTP ".toList.all fun c => c.toLower != 'r' && c.toLower != 'f') = true := by
        decide +kernel
      simpa using List.all_eq_true.mp hall c h
    · have hsmall := toNat_of_mem_toString h
      rw [Text.toLower_eq (.inl hsmall)]
      constructor
      · rintro rfl
        exact absurd hsmall (by decide)
      · rintro rfl
        exact absurd hsmall (by decide)
  intro htells
  obtain ⟨word, hword, part, hpart, hmap⟩ := tellsFailure_iff.mp htells
  have hfound {c : Char} (hc : c ∈ word.toList) :
      ∃ d ∈ ("HTTP " ++ toString status).toList, d.toLower = c := by
    rw [← hmap] at hc
    obtain ⟨d, hd, hlower⟩ := List.mem_map.mp hc
    exact ⟨d, hpart.subset hd, hlower⟩
  simp only [List.mem_cons, List.not_mem_nil, or_false] at hword
  rcases hword with rfl | rfl
  · obtain ⟨d, hd, hlower⟩ := hfound (c := 'r') (by decide +kernel)
    exact (hletter hd).1 hlower
  · obtain ⟨d, hd, hlower⟩ := hfound (c := 'f') (by decide +kernel)
    exact (hletter hd).2 hlower

theorem tellsFailure_errorText (status : Int) (data : Json) :
    tellsFailure (errorText status data) = true ↔ data.TellsFailure := by
  have hplain := not_tellsFailure_status status
  unfold errorText Json.TellsFailure
  split
  · rename_i fields
    split
    · rename_i v hv
      split
      · rename_i htruthy
        rw [tellsFailure_iff]
        simp [hv, htruthy]
      · rename_i hfalsy
        exact iff_of_false hplain (by simp [hv, hfalsy])
    · rename_i hnone
      exact iff_of_false hplain (by simp [hnone])
  · rename_i hno
    refine iff_of_false hplain ?_
    rintro ⟨fields, v, rfl, -⟩
    exact hno fields rfl

theorem errorFor_reports (status : Int) (data : Json) :
    (errorFor status data).Reports status data := by
  have htells := tellsFailure_errorText status data
  unfold errorFor
  split
  · rename_i h
    obtain rfl := beq_iff_eq.mp h
    exact ⟨rfl, rfl, fun _ => rfl, nofun, nofun, fun hno => absurd rfl hno⟩
  · rename_i hunauthorized
    split
    · rename_i h
      obtain rfl := beq_iff_eq.mp h
      exact ⟨rfl, rfl, nofun, fun _ => rfl, nofun, fun _ hno => absurd rfl hno⟩
    · rename_i hunpaid
      split
      · rename_i h
        obtain rfl := beq_iff_eq.mp h
        exact ⟨rfl, rfl, nofun, nofun, fun _ => rfl, fun _ _ hno => absurd rfl hno⟩
      · rename_i hmissing
        rw [beq_iff_eq] at hunauthorized hunpaid hmissing
        refine ⟨rfl, rfl, fun h => absurd h hunauthorized, fun h => absurd h hunpaid,
          fun h => absurd h hmissing, fun _ _ _ => ?_⟩
        dsimp only
        rw [← htells]
        split
        · exact ⟨.inl rfl, iff_of_true rfl ‹_›⟩
        · exact ⟨.inr rfl, iff_of_false nofun ‹_›⟩

/-! ## Calls -/

/-- A refusal is reported with the document that came with it, or with none. -/
theorem answer_refuses {response : Response} (hstatus : 400 ≤ response.status)
    (hdepth : response.json ≠ .error .tooDeep) :
    answer response =
      .error (.api (errorFor response.status (response.json.toOption.getD .null))) := by
  rw [answer, if_pos hstatus]
  cases hjson : response.json with
  | ok data => rfl
  | error e =>
    cases e with
    | tooDeep => exact absurd hjson hdepth
    | _ => rfl

/-- What a call makes of the outcome of its exchange. -/
def conclude (c : Client) : Except RequestError (Response × String) → Except Fault Json
  | .error e => .error (.api (c.exchangeError e))
  | .ok (response, _) => answer response

theorem request_apply {c : Client} {method endpoint : String} {fields : List (String × String)}
    {body : Body} {w w' : World} {outcome : Except RequestError (Response × String)}
    (h : Act.exchange ⟨method, c.baseUrl ++ endpoint, fields, c.headers body, body, c.timeout⟩ w =
      (.ok outcome, w')) :
    c.request method endpoint fields body w = (c.conclude outcome, w') := by
  rw [request, Act.bind_apply, h]
  cases outcome with
  | error e => rfl
  | ok reply =>
    obtain ⟨response, url⟩ := reply
    dsimp only [conclude]
    cases answer response <;> rfl

/-- The request of a call. -/
def call (c : Client) (method endpoint : String) (fields : List (String × String)) (body : Body) :
    Request :=
  ⟨method, c.baseUrl ++ endpoint, fields, c.headers body, body, c.timeout⟩

/-- Every call comes to an exchange with the service. Without a response it ends in an error of
the service that carries nothing. A response with an error status ends it in an error that
carries the status and the document, if there is one; the kind of the error is as it is told.
Any other response is answered by its document. A call ends in a fault of another kind if such a
response has no document, if the document of any response is nested too deep, or if the exchange
fails in a way that is not known to the library, and these are the only ways. -/
theorem request_fails (c : Client) (method endpoint : String) (fields : List (String × String))
    (body : Body) (w : World) :
    let r := c.call method endpoint fields body
    ∃ result w', c.request method endpoint fields body w = (result, w') ∧
      (r.Escapes w → result = .error .wrongValue) ∧
      (¬ r.Escapes w → ∃ outcome, Act.exchange r w = (.ok outcome, w') ∧
        (∀ e, outcome = .error e →
          ∃ text, result = .error (.api ⟨.general, text, none, .null⟩)) ∧
        ∀ response url, outcome = .ok (response, url) →
          (400 ≤ response.status → response.json ≠ .error .tooDeep →
            ∃ error : ApiError, result = .error (.api error) ∧
              error.Reports response.status (response.json.toOption.getD .null)) ∧
          (response.json = .error .tooDeep → result = .error (.failed .tooDeep)) ∧
          (response.status < 400 →
            (∀ data, response.json = .ok data → result = .ok data) ∧
            (∀ e, response.json = .error e → result = .error (.ofJson e)))) := by
  intro r
  rcases Act.exchange_answers r w with ⟨hescapes, w', hrun⟩ | ⟨hknown, outcome, w', hrun⟩
  · refine ⟨.error .wrongValue, w', ?_, fun _ => rfl, fun hknown => absurd hescapes hknown⟩
    have hexchange : Act.exchange ⟨method, c.baseUrl ++ endpoint, fields, c.headers body, body,
      c.timeout⟩ w = (.error .wrongValue, w') := hrun
    rw [request, Act.bind_apply, hexchange]
  refine ⟨c.conclude outcome, w', request_apply hrun, fun hescapes => absurd hescapes hknown,
    fun _ => ⟨outcome, hrun, ?_, ?_⟩⟩
  · rintro e rfl
    exact ⟨_, rfl⟩
  rintro response url rfl
  change _ ∧ (_ → answer response = _) ∧ _
  refine ⟨fun hstatus hdepth => ?_, fun hdeep => ?_,
    fun hstatus => ⟨fun data hdata => ?_, fun e he => ?_⟩⟩
  · exact ⟨_, answer_refuses hstatus hdepth, errorFor_reports _ _⟩
  · rw [answer, hdeep]
    split <;> rfl
  · rw [conclude, answer, if_neg (Int.not_le.mpr hstatus), hdata]
    rfl
  · rw [conclude, answer, if_neg (Int.not_le.mpr hstatus), he]
    rfl

/-- A client of a service, and a world in which its question about credits gets a response. -/
def asking : Client := ofKey "k" "https://[::1]" defaultTimeout

def reply (status : Int) (document : String) : Response :=
  { status := status, reason := "", headers := []
    body := .bytes (document.toList.map fun c => UInt8.ofNat c.toNat) }

def replying (response : Response) : World :=
  { World.initial with
    exchanges := [("GET https://[::1]/v1/credits", [⟨0, .ok response⟩])] }

theorem asking_answers (status : Int) (document : String) :
    let r := asking.call "GET" "/v1/credits" [] .none
    let w := replying (reply status document)
    ¬ r.Escapes w ∧ ∃ w', Act.exchange r w =
      (.ok (.ok (reply status document, "https://[::1]/v1/credits")), w') := by
  intro r w
  have htarget : Address.Target.prepare (asking.baseUrl ++ "/v1/credits") [] =
      .ok "https://[::1]/v1/credits" := ok_of_toOption (by decide +kernel)
  have hheaders : Request.headerError? (asking.headers .none) = none := by decide +kernel
  have hending : (w.courseOf ⟨r.method, "https://[::1]/v1/credits", r.headers, r.body⟩).toEnding =
      ⟨.ok (reply status document), "https://[::1]/v1/credits"⟩ := by
    have hkey : Sending.key ⟨r.method, "https://[::1]/v1/credits", r.headers, r.body⟩ =
      "GET https://[::1]/v1/credits" := by decide +kernel
    rw [World.courseOf, World.settle, hkey]
    rfl
  constructor
  · rintro ⟨url, hurl, -, text, hfails⟩
    obtain rfl := Except.ok.inj (htarget.symm.trans hurl)
    cases (congrArg Ending.outcome hending).symm.trans hfails
  · rw [Act.exchange, Act.bind_apply, Act.send_apply (r := r) htarget hheaders w, hending]
    exact ⟨_, rfl⟩

/-- A document that tells in capitals that a job failed. -/
def stopped : String := "\x7b\"error\": \"PROCESSING stopped\"\x7d"

theorem request_fails_processing :
    400 ≤ (reply 500 stopped).status ∧ ∃ error : ApiError,
      (asking.request "GET" "/v1/credits" [] .none (replying (reply 500 stopped))).1 =
        .error (.api error) ∧ error.status = some 500 ∧ error.kind = .processing := by
  obtain ⟨result, w', hrequest, -, hanswers⟩ :=
    request_fails asking "GET" "/v1/credits" [] .none (replying (reply 500 stopped))
  obtain ⟨hknown, w'', hasking⟩ := asking_answers 500 stopped
  obtain ⟨outcome, hexchange, -, hanswered⟩ := hanswers hknown
  cases hasking.symm.trans hexchange
  have hstatus : 400 ≤ (reply 500 stopped).status := by decide
  have hread : (reply 500 stopped).json.toOption.isSome = true := by decide +kernel
  have hdepth : (reply 500 stopped).json ≠ .error .tooDeep := by
    intro hdeep
    rw [hdeep] at hread
    cases hread
  obtain ⟨error, hresult, hreports⟩ := (hanswered _ _ rfl).1 hstatus hdepth
  obtain ⟨-, hkind⟩ := hreports.other (by decide) (by decide) (by decide)
  refine ⟨hstatus, error, by rw [hrequest, hresult], hreports.status_eq, hkind.mpr ?_⟩
  have htext : errorText 500 ((reply 500 stopped).json.toOption.getD .null) =
      "PROCESSING stopped" := by
    decide +kernel
  refine (tellsFailure_errorText 500 _).mp ?_
  rw [htext, tellsFailure_iff]
  exact ⟨"processing", by decide, "PROCESSING".toList, ⟨[], " stopped".toList, by decide +kernel⟩,
    by decide +kernel⟩

/-- A response that is no error and no document ends a call in a fault of another kind. -/
theorem request_not_api : ¬ ∀ (c : Client) (method endpoint : String)
    (fields : List (String × String)) (body : Body) (w : World) (e : Fault),
    (c.request method endpoint fields body w).1 = .error e → ∃ error, e = .api error := by
  intro hall
  obtain ⟨-, w', hasking⟩ := asking_answers 200 "<html>"
  have hjson : (reply 200 "<html>").json.toOption.isSome = false := by decide +kernel
  cases hread : (reply 200 "<html>").json with
  | ok data =>
    rw [hread] at hjson
    cases hjson
  | error e =>
    have hanswer : ∃ fault, answer (reply 200 "<html>") = .error fault ∧
        ∀ error, fault ≠ .api error := by
      rw [answer, if_neg (by decide), hread]
      cases e <;> exact ⟨_, rfl, fun error h => by cases h⟩
    obtain ⟨fault, hanswer, hother⟩ := hanswer
    obtain ⟨error, herror⟩ := hall asking "GET" "/v1/credits" [] .none
      (replying (reply 200 "<html>")) fault (by rw [request_apply hasking, conclude, hanswer])
    exact hother error herror

end Client

end Compositor
