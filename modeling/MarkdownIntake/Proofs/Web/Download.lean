import MarkdownIntake.Web.Download

/-!
This module contains the course of a download: which requests are sent, and how the last reply decides
what comes of it.
-/

namespace MarkdownIntake.Web

open MarkdownIntake.Number

variable {replies : Nat → Reply} {url : String} {timeout : Binary64}

/-! ### The course of a download -/

/--
A reply to a request to `origin` that is not followed any further, and what it comes to. `redirects` is
the number of redirections that may still be followed.
-/
inductive Settles (url : String) (timeout : Binary64) (origin : Address) :
    (redirects : Nat) → Reply → Except DownloadError String → Prop
  | timedOut {redirects : Nat} :
    Settles url timeout origin redirects .timedOut (.error (.timedOut url timeout))
  | broken {redirects : Nat} (reason : String) :
    Settles url timeout origin redirects (.broken reason) (.error (.broken reason))
  | text {redirects : Nat} {response : Response} {text : String}
    (hredirect : response.redirect? = none) (hsuccess : response.isSuccess = true)
    (htext : response.text = .ok text) :
    Settles url timeout origin redirects (.response response) (.ok text)
  | foreign {redirects : Nat} {response : Response} {code : CodeError}
    (hredirect : response.redirect? = none) (hsuccess : response.isSuccess = true)
    (htext : response.text = .error code) :
    Settles url timeout origin redirects (.response response) (.error (.unreadable code))
  | refused {redirects : Nat} {response : Response} (hredirect : response.redirect? = none)
    (hsuccess : response.isSuccess = false) :
    Settles url timeout origin redirects (.response response)
      (.error (.refused response.status response.reasonText))
  | badLocation {redirects : Nat} {response : Response} {location reason : String}
    (hredirect : response.redirect? = some location)
    (hnext : nextAddress origin location = .error (.broken reason)) :
    Settles url timeout origin redirects (.response response) (.error (.broken reason))
  | badTarget {redirects : Nat} {response : Response} {location : String} {error : AddressError}
    (hredirect : response.redirect? = some location)
    (hnext : nextAddress origin location = .error (.badAddress error)) :
    Settles url timeout origin redirects (.response response) (.error (.badAddress error))
  | tooMany {response : Response} {location : String} {next : Address}
    (hredirect : response.redirect? = some location)
    (hnext : nextAddress origin location = .ok next) :
    Settles url timeout origin 0 (.response response)
      (.error (.broken "Exceeded maximum allowed redirects."))

/-- What happens from a request to an address on, after the requests in `sent`. -/
inductive Course (replies : Nat → Reply) (url : String) (timeout : Binary64) :
    (redirects : Nat) → (sent : List Request) → Address → Exchange → Prop
  | ends {redirects : Nat} {sent : List Request} {address : Address}
    {result : Except DownloadError String}
    (h : Settles url timeout address redirects (replies sent.length) result) :
    Course replies url timeout redirects sent address (sent ++ [{ address := address }], result)
  | follows {redirects : Nat} {sent : List Request} {address next : Address} {response : Response}
    {location : String} {outcome : Exchange} (hreply : replies sent.length = .response response)
    (hredirect : response.redirect? = some location)
    (hnext : nextAddress address location = .ok next)
    (hrest : Course replies url timeout redirects (sent ++ [{ address := address }]) next outcome) :
    Course replies url timeout (redirects + 1) sent address outcome

theorem nextAddress_error {origin : Address} {location : String} {error : DownloadError}
    (h : nextAddress origin location = .error error) :
    (∃ reason, error = .broken reason) ∨ ∃ e, error = .badAddress e := by
  unfold nextAddress at h
  split at h
  . next address _ =>
    cases hfollowed : followed origin address with
    | ok next => rw [hfollowed] at h; cases h
    | error e => rw [hfollowed] at h; cases h; exact .inr ⟨e, rfl⟩
  . cases h
    exact .inl ⟨_, rfl⟩

theorem course_exchange (redirects : Nat) (sent : List Request) (address : Address) :
    Course replies url timeout redirects sent address
      (exchange replies url timeout redirects sent address) := by
  fun_induction exchange replies url timeout redirects sent address with
  | case1 _ _ _ _ hreply => exact .ends (hreply ▸ .timedOut)
  | case2 _ _ _ _ reason hreply => exact .ends (hreply ▸ .broken reason)
  | case3 _ _ _ _ _ hreply _ hredirect _ hnext =>
    obtain ⟨reason, rfl⟩ | ⟨error, rfl⟩ := nextAddress_error hnext
    . exact .ends (hreply ▸ .badLocation hredirect hnext)
    . exact .ends (hreply ▸ .badTarget hredirect hnext)
  | case4 _ _ _ _ hreply _ hredirect _ hnext => exact .ends (hreply ▸ .tooMany hredirect hnext)
  | case5 _ _ _ _ hreply _ hredirect _ hnext _ ih => exact .follows hreply hredirect hnext ih
  | case6 _ _ _ _ response hreply hredirect hsuccess =>
    cases htext : response.text with
    | ok text => exact .ends (hreply ▸ .text hredirect hsuccess htext)
    | error code => exact .ends (hreply ▸ .foreign hredirect hsuccess htext)
  | case7 _ _ _ _ _ hreply hredirect hsuccess =>
    exact .ends (hreply ▸ .refused hredirect (by simpa using hsuccess))

namespace Course

variable {redirects : Nat} {sent : List Request} {address : Address} {outcome : Exchange}

theorem exists_last (h : Course replies url timeout redirects sent address outcome) :
    ∃ before origin left, outcome.1 = before ++ [{ address := origin }]
      ∧ before.length + left = sent.length + redirects
      ∧ Settles url timeout origin left (replies before.length) outcome.2 := by
  induction h with
  | ends h => exact ⟨_, _, _, rfl, rfl, h⟩
  | follows _ _ _ _ ih =>
    obtain ⟨before, origin, left, hlast, hlength, hsettles⟩ := ih
    refine ⟨before, origin, left, hlast, ?_, hsettles⟩
    rw [hlength, List.length_append, List.length_singleton]
    omega

theorem eq_of_mem (h : Course replies url timeout redirects sent address outcome)
    (hsent : ∀ request ∈ sent, request = { address := request.address }) :
    ∀ request ∈ outcome.1, request = { address := request.address } := by
  have hnext {sent : List Request} (hsent : ∀ request ∈ sent, request = { address := request.address })
      (address : Address) :
      ∀ request ∈ sent ++ [{ address := address }], request = { address := request.address } :=
    List.forall_mem_append.mpr ⟨hsent, List.forall_mem_singleton.mpr rfl⟩
  induction h with
  | ends => exact hnext hsent _
  | follows _ _ _ _ ih => exact ih (hnext hsent _)

end Course

/-! ### The last reply -/

/-- The errors that a caller is told of. Any other one breaks the program off. -/
def DownloadError.IsReported : DownloadError → Prop
  | .timedOut .. | .broken _ | .refused .. => True
  | .badAddress _ | .unreadable _ => False

/-- The body is in no character set, or a redirection leads to what is no address. -/
def Reply.BreaksOff (reply : Reply) (origin : Address) : Prop :=
  ∃ response, reply = .response response
    ∧ ((response.isSuccess = true ∧ ∃ code, response.text = .error code)
      ∨ ∃ location error, response.redirect? = some location
        ∧ nextAddress origin location = .error (.badAddress error))

/-- A redirection does not get to its target. `left` is the number of those that may still be followed. -/
def Response.IsDeadEnd (response : Response) (origin : Address) (left : Nat) : Prop :=
  ∃ location, response.redirect? = some location
    ∧ ((∃ reason, nextAddress origin location = .error (.broken reason))
      ∨ left = 0 ∧ ∃ next, nextAddress origin location = .ok next)

/-- What comes of a download, told from the reply to its last request. -/
structure Decides (reply : Reply) (origin : Address) (left : Nat)
    (result : Except DownloadError String) : Prop where
  text (text : String) :
    result = .ok text
      ↔ ∃ response, reply = .response response ∧ response.isSuccess = true ∧ response.text = .ok text
  refusal (status : Int) (reason : String) :
    (∃ error, result = .error error ∧ error.IsReported ∧ error.status? = some status
        ∧ error.detail? = some reason)
      ↔ ∃ response, reply = .response response ∧ response.isSuccess = false
        ∧ response.redirect? = none ∧ response.status = status ∧ response.reasonText = reason
  failure :
    (∃ error, result = .error error ∧ error.IsReported ∧ error.status? = none)
      ↔ reply = .timedOut ∨ (∃ reason, reply = .broken reason)
        ∨ ∃ response, reply = .response response ∧ response.IsDeadEnd origin left
  timedOut :
    (∃ error, result = .error error ∧ error.IsReported ∧ error.message = "Request timed out")
      ↔ reply = .timedOut
  breaksOff : (∃ error, result = .error error ∧ ¬ error.IsReported) ↔ reply.BreaksOff origin

theorem isSuccess_of_redirect {response : Response} {location : String}
    (h : response.redirect? = some location) : response.isSuccess = false := by
  unfold Response.redirect? at h
  split at h
  . next hstatus =>
    simp only [Response.redirectStatuses, List.contains_iff_mem, List.mem_cons, List.not_mem_nil,
      or_false] at hstatus
    simp only [Response.isSuccess, Bool.and_eq_false_iff, decide_eq_false_iff_not]
    omega
  . cases h

namespace DownloadError

theorem message_timedOut (url : String) (timeout : Binary64) :
    (timedOut url timeout).message = "Request timed out" :=
  rfl

theorem message_broken_ne (reason : String) : (broken reason).message ≠ "Request timed out" := by
  change "Failed to fetch markdown" ≠ "Request timed out"
  decide

theorem message_refused_ne (status : Int) (reason : String) :
    (refused status reason).message ≠ "Request timed out" := by
  change "Failed to fetch markdown: " ++ toString status ++ " " ++ reason ≠ "Request timed out"
  intro h
  have hhead := congrArg (·.toList.head?) h
  simp only [String.toList_append, List.append_assoc] at hhead
  simp at hhead

end DownloadError

section

open DownloadError

theorem Settles.decides {origin : Address} {left : Nat} {reply : Reply}
    {result : Except DownloadError String} (h : Settles url timeout origin left reply result) :
    Decides reply origin left result := by
  cases h with
  | timedOut =>
    constructor
    all_goals simp [IsReported, status?, message_timedOut, Reply.BreaksOff]
  | broken reason =>
    constructor
    all_goals simp [IsReported, status?, message_broken_ne, Reply.BreaksOff]
  | text hredirect hsuccess htext =>
    constructor
    all_goals simp [hredirect, hsuccess, htext, Response.IsDeadEnd, Reply.BreaksOff]
  | foreign hredirect hsuccess htext =>
    constructor
    all_goals
      simp [IsReported, hredirect, hsuccess, htext, Response.IsDeadEnd, Reply.BreaksOff]
  | refused hredirect hsuccess =>
    constructor
    all_goals
      simp [IsReported, status?, detail?, message_refused_ne, hredirect, hsuccess, Response.IsDeadEnd,
        Reply.BreaksOff]
  | badLocation hredirect hnext =>
    have hsuccess := isSuccess_of_redirect hredirect
    constructor
    all_goals
      simp [IsReported, status?, message_broken_ne, hredirect, hsuccess, hnext, Response.IsDeadEnd,
        Reply.BreaksOff]
  | badTarget hredirect hnext =>
    have hsuccess := isSuccess_of_redirect hredirect
    constructor
    all_goals
      simp [IsReported, hredirect, hsuccess, hnext, Response.IsDeadEnd, Reply.BreaksOff]
  | tooMany hredirect hnext =>
    have hsuccess := isSuccess_of_redirect hredirect
    constructor
    all_goals
      simp [IsReported, status?, message_broken_ne, hredirect, hsuccess, hnext, Response.IsDeadEnd,
        Reply.BreaksOff]

end

/-! ### Whole downloads -/

theorem exists_firstAddress {parsed : Address} (h : Address.parse url = .ok parsed) :
    ∃ address, firstAddress url = .ok address := by
  simp only [firstAddress, h, bind, Except.bind]
  split
  . exact ⟨_, rfl⟩
  . exact ⟨_, rfl⟩

theorem course_download (replies : Nat → Reply) (timeout : Binary64) {address : Address}
    (h : firstAddress url = .ok address) :
    Course replies url timeout 20 [] address (download replies url timeout) := by
  rw [download, h]
  exact course_exchange maxRedirects [] address

theorem decides_download (replies : Nat → Reply) (timeout : Binary64) {address : Address}
    (h : firstAddress url = .ok address) :
    ∃ before origin, (download replies url timeout).1 = before ++ [{ address := origin }]
      ∧ before.length ≤ 20
      ∧ Decides (replies before.length) origin (20 - before.length)
        (download replies url timeout).2 := by
  obtain ⟨before, origin, left, hrequests, hlength, hsettles⟩ :=
    (course_download replies timeout h).exists_last
  rw [List.length_nil, Nat.zero_add] at hlength
  have hleft : left = 20 - before.length := by omega
  exact ⟨before, origin, hrequests, by omega, hleft ▸ hsettles.decides⟩

def movedDocument : Nat → Reply
  | 0 => .response { status := 302, headers := [("Location", "/new.md")] }
  | _ => .timedOut

def hexDocument : Response where
  headers := [("Content-Type", "text/plain; charset=hex")]
  text := .error .bytes

theorem withBody?_hexDocument :
    ({ headers := [("Content-Type", "text/plain; charset=hex")] } : Response).withBody? [0x78]
      =
    some hexDocument := by
  have hheader : Response.header? { headers := [("Content-Type", "text/plain; charset=hex")] }
      "content-type" = some "text/plain; charset=hex" := by
    decide +kernel
  have hname : Charset.nameIn? "text/plain; charset=hex" = some "hex".toList := by decide +kernel
  have helsewhere : Charset.isElsewhere "hex".toList = false := by decide +kernel
  have hforeign : Charset.foreign? "hex".toList = some .bytes := by decide +kernel
  have hcharset : Charset.ofHeader (some "text/plain; charset=hex") = .error .bytes := by
    rw [Charset.ofHeader, Option.bind_some, hname, Option.bind_some, hforeign]
  have htext : Charset.text? (some "text/plain; charset=hex") [0x78] = some (.error .bytes) := by
    rw [Charset.text?, Option.bind_some, hname, Option.any_some, helsewhere, hcharset]
    rfl
  rw [Response.withBody?, hheader, htext]
  rfl

theorem isReported_iff (replies : Nat → Reply) (url : String) (timeout : Binary64) :
    (∀ error, (download replies url timeout).2 = .error error → error.IsReported)
      ↔ (∃ parsed, Address.parse url = .ok parsed)
        ∧ ∀ last ∈ (download replies url timeout).1.getLast?,
          ¬ (replies ((download replies url timeout).1.length - 1)).BreaksOff last.address := by
  cases hparse : Address.parse url with
  | error error =>
    have hfirst : firstAddress url = .error error := by
      rw [firstAddress, hparse]
      rfl
    have hdownload : (download replies url timeout).2 = .error (.badAddress error) := by
      rw [download, hfirst]
    constructor
    . intro h
      exact (h _ hdownload).elim
    . rintro ⟨⟨parsed, hparsed⟩, -⟩
      cases hparsed
  | ok parsed =>
    obtain ⟨address, hfirst⟩ := exists_firstAddress hparse
    obtain ⟨before, origin, hrequests, -, hdecides⟩ := decides_download replies timeout hfirst
    rw [hrequests, List.getLast?_concat, List.length_append, List.length_singleton,
      Nat.add_sub_cancel]
    have hlast : (∀ last ∈ some ({ address := origin } : Request),
        ¬ (replies before.length).BreaksOff last.address)
        ↔ ¬ (replies before.length).BreaksOff origin := by
      simp
    rw [hlast, ← hdecides.breaksOff]
    simp

end MarkdownIntake.Web
