import GitGateway.Proofs.Correlation
import Mathlib.Data.List.TakeWhile

/-!
# What the backend gets to see

A request goes to the backend as it came, but under the backend's name.

- `Http.Target.Spelled`: how a target is written, and the path and query that stand in it;
  `Http.Target.spelled_of_ofString?`: a text that is read as a target is written so;
- `Http.Target.toList_originForm`: the request line has that path and query to the octet,
  where an empty path is written as a slash;
- `Http.Authority.toList_hostHeader`: what a host header says of an authority that is put
  together from a user, a host and a port;
- `Proxy.Carries`: a request as the backend is to see it;
- `Proxy.request_goes_through`: **every request goes through like that**, be it sent by the
  client alone or by the proxy, which adds an ID where there is none.

Nothing is said here of how a body is framed, nor of the connection it goes over, nor of
`CONNECT`, which asks for a connection and has no path.
-/

namespace GitGateway

/-- A text up to a character that does not stand in it, and with which the rest begins. -/
theorem takeWhile_ne_append {stop : Char} {front rest : List Char} (absent : stop ∉ front)
    (border : rest = [] ∨ ∃ more, rest = stop :: more) :
    (front ++ rest).takeWhile (· != stop) = front := by
  have other : ∀ c ∈ front, (c != stop) = true := by
    intro c mem
    refine bne_iff_ne.mpr ?_
    rintro rfl
    exact absent mem
  rw [List.takeWhile_append_of_pos other]
  rcases border with rfl | ⟨more, rfl⟩
  · exact List.append_nil _
  · rw [List.takeWhile_cons_of_neg (by simp), List.append_nil]

namespace Http

/-! ## Authorities -/

namespace Authority

/-- What stands in front of a host: nothing, or something that ends in an `@`. -/
def IsUser (user : List Char) : Prop :=
  user = [] ∨ ∃ name, user = name ++ ['@']

/-- A host: a name, or an address between brackets. -/
inductive IsHost : List Char → Prop
  | name {host : List Char} (plain : ∀ c ∈ host, c ≠ '@' ∧ c ≠ ':' ∧ c ≠ '[') : IsHost host
  | address {inside : List Char} (plain : ∀ c ∈ inside, c ≠ '@' ∧ c ≠ ']') :
    IsHost ('[' :: (inside ++ [']']))

/-- The number that decimal digits spell. -/
def decimal (digits : List Char) : Nat :=
  digits.foldl (fun value c => value * 10 + (c.toNat - '0'.toNat)) 0

/-- What stands behind a host: nothing, or a colon and a number of 16 bits. -/
inductive IsPort : List Char → Option Nat → Prop
  | absent : IsPort [] none
  | number {digits : List Char} (nonempty : digits ≠ [])
    (decimal_digits : ∀ c ∈ digits, c.isDigit = true) (fits : decimal digits ≤ 65535) :
    IsPort (':' :: digits) (some (decimal digits))

/-- A host, and its port unless it is the usual one. -/
def shown (host : List Char) : Option Nat → List Char
  | none => host
  | some port => if port = 80 then host else host ++ ':' :: (toString port).toList

theorem IsHost.not_at {host : List Char} (h : IsHost host) : '@' ∉ host := by
  cases h with
  | name plain => exact fun mem => (plain _ mem).1 rfl
  | @address inside plain =>
    have within : '@' ∉ inside := fun mem => (plain _ mem).1 rfl
    simp [within]

theorem IsPort.not_at {text : List Char} {port : Option Nat} (h : IsPort text port) :
    '@' ∉ text := by
  cases h with
  | absent => exact List.not_mem_nil
  | number _ decimal_digits =>
    intro mem
    rcases List.mem_cons.mp mem with same | mem
    · exact absurd same (by decide)
    · exact absurd (decimal_digits _ mem) (by decide)

/-- Behind a host comes nothing or a colon. -/
theorem IsPort.border {text : List Char} {port : Option Nat} (h : IsPort text port) :
    text = [] ∨ ∃ more, text = ':' :: more := by
  cases h with
  | absent => exact .inl rfl
  | number => exact .inr ⟨_, rfl⟩

section Parts

variable {authority : String} {user host text : List Char} {port : Option Nat}

/-- The user is not part of the host and the port. -/
theorem toList_hostPort (isUser : IsUser user) (isHost : IsHost host) (isPort : IsPort text port)
    (parts : authority.toList = user ++ (host ++ text)) :
    (hostPort authority).toList = host ++ text := by
  have absent : '@' ∉ (host ++ text).reverse := by
    rw [List.mem_reverse, List.mem_append, not_or]
    exact ⟨isHost.not_at, isPort.not_at⟩
  have border : user.reverse = [] ∨ ∃ more, user.reverse = '@' :: more := by
    rcases isUser with rfl | ⟨name, rfl⟩
    · exact .inl rfl
    · exact .inr ⟨name.reverse, by rw [List.reverse_append]; rfl⟩
  rw [hostPort, String.toList_ofList, parts, List.reverse_append,
    takeWhile_ne_append absent border, List.reverse_reverse]

theorem toList_host (isUser : IsUser user) (isHost : IsHost host) (isPort : IsPort text port)
    (parts : authority.toList = user ++ (host ++ text)) : (Authority.host authority).toList = host := by
  rw [Authority.host, toList_hostPort isUser isHost isPort parts]
  cases isHost with
  | name plain =>
    have upToColon : (host ++ text).takeWhile (· != ':') = host :=
      takeWhile_ne_append (fun mem => (plain _ mem).2.1 rfl) isPort.border
    split
    · -- neither the host nor the port opens a bracket
      rename_i rest opens
      cases host with
      | nil =>
        rcases isPort.border with rfl | ⟨more, rfl⟩
        · cases opens
        · exact absurd (List.cons.inj opens).1 (by decide)
      | cons c more => exact absurd (List.cons.inj opens).1 (plain c (List.mem_cons_self ..)).2.2
    · rw [String.toList_ofList, upToColon]
  | @address inside plain =>
    have upToBracket : (inside ++ [']'] ++ text).takeWhile (· != ']') = inside := by
      rw [List.append_assoc]
      exact takeWhile_ne_append (fun mem => (plain _ mem).2 rfl) (.inr ⟨text, rfl⟩)
    show (String.ofList ('[' :: (inside ++ [']'] ++ text).takeWhile (· != ']') ++ [']'])).toList = _
    rw [upToBracket, String.toList_ofList]
    rfl

/-- Digits have no sign to take off. -/
theorem unsigned_of_digits {digits : List Char} (h : ∀ c ∈ digits, c.isDigit = true) :
    unsigned digits = digits := by
  unfold unsigned
  split
  · exact absurd (h '+' (List.mem_cons_self ..)) (by decide)
  · rfl

/-- What ends in a bracket is no number, with a sign or without. -/
theorem not_all_digits_of_bracket (chars : List Char) :
    (unsigned (chars ++ [']'])).all Char.isDigit = false := by
  refine List.all_eq_false.mpr ⟨']', ?_, by decide⟩
  unfold unsigned
  split
  · rename_i digits same
    cases chars with
    | nil => exact absurd (List.cons.inj same).1 (by decide)
    | cons c more =>
      obtain ⟨-, rfl⟩ := List.cons.inj same
      exact List.mem_append_right _ (List.mem_singleton_self _)
  · exact List.mem_append_right _ (List.mem_singleton_self _)

theorem port?_eq (isUser : IsUser user) (isHost : IsHost host) (isPort : IsPort text port)
    (parts : authority.toList = user ++ (host ++ text)) : port? authority = port := by
  rw [port?, toList_hostPort isUser isHost isPort parts]
  cases isPort with
  | @number digits nonempty decimal_digits fits =>
    have absent : ':' ∉ digits.reverse := by
      rw [List.mem_reverse]
      exact fun mem => absurd (decimal_digits _ mem) (by decide)
    have last : ((host ++ ':' :: digits).reverse.takeWhile (· != ':')).reverse = digits := by
      rw [List.reverse_append, List.reverse_cons, List.append_assoc, List.singleton_append,
        takeWhile_ne_append absent (.inr ⟨host.reverse, rfl⟩), List.reverse_reverse]
    have shorter : digits.length < (host ++ ':' :: digits).reverse.length := by
      rw [List.length_reverse, List.length_append, List.length_cons]
      omega
    have all : digits.all Char.isDigit = true := List.all_eq_true.mpr decimal_digits
    have some_digit : digits.isEmpty = false := by simpa using nonempty
    simp only [last, unsigned_of_digits decimal_digits, shorter, all, some_digit, decide_true,
      Bool.not_false, Bool.and_self, if_true]
    exact if_pos fits
  | absent =>
    rw [List.append_nil]
    cases isHost with
    | name plain =>
      -- without a colon all of it would be the port, with no host in front
      have absent : ':' ∉ host.reverse := fun mem =>
        (plain _ (List.mem_reverse.mp mem)).2.1 rfl
      have last : host.reverse.takeWhile (· != ':') = host.reverse := by
        simpa using takeWhile_ne_append absent (.inl rfl)
      simp [last]
    | @address inside plain =>
      obtain ⟨chars, last⟩ : ∃ chars,
          (('[' :: (inside ++ [']'])).reverse.takeWhile (· != ':')).reverse = chars ++ [']'] := by
        rw [← List.cons_append, List.reverse_append, List.reverse_singleton, List.singleton_append,
          List.takeWhile_cons_of_pos (by decide), List.reverse_cons]
        exact ⟨_, rfl⟩
      simp only [last, not_all_digits_of_bracket, Bool.and_false, Bool.false_eq_true, if_false]

/-- **A host header says** the host of an authority, and its port unless it is the usual
one. -/
theorem toList_hostHeader (isUser : IsUser user) (isHost : IsHost host) (isPort : IsPort text port)
    (parts : authority.toList = user ++ (host ++ text)) :
    (hostHeader authority).toList = shown host port := by
  have name := toList_host isUser isHost isPort parts
  unfold hostHeader
  rw [port?_eq isUser isHost isPort parts]
  cases port with
  | none => exact name
  | some number =>
    rw [shown]
    split
    · rename_i absent
      cases absent
    · rename_i same
      rw [if_pos (Option.some.inj same)]
      exact name
    · rename_i other same
      obtain rfl := Option.some.inj same
      have unusual : number ≠ 80 := other
      rw [if_neg unusual, String.toList_append, String.toList_append, name, List.append_assoc]
      rfl

end Parts

/-- A scan takes what does not end an authority, and stops where something does. -/
theorem exists_of_scan {state : Scan} {chars after : List Char} (h : scan state chars = .ok after) :
    ∃ authority, chars = authority ++ after ∧ (∀ c ∈ authority, isEnd c = false) ∧
      ∀ c ∈ after.head?, isEnd c = true := by
  induction chars generalizing state with
  | nil =>
    rw [scan] at h
    split at h
    · cases h
      exact ⟨[], rfl, nofun, nofun⟩
    · cases h
  | cons c rest ih =>
    rw [scan] at h
    cases ends : isEnd c with
    | true =>
      rw [ends, if_pos rfl] at h
      split at h
      · cases h
        refine ⟨[], rfl, nofun, ?_⟩
        rintro _ ⟨⟩
        exact ends
      · cases h
    | false =>
      rw [ends, if_neg Bool.false_ne_true] at h
      split at h
      · obtain ⟨authority, rfl, inside, border⟩ := ih h
        exact ⟨c :: authority, rfl, List.forall_mem_cons.mpr ⟨ends, inside⟩, border⟩
      · cases h

end Authority

/-! ## Targets -/

namespace Target

/-- A path and query in a request line: a path that is empty is written as a slash. -/
def rooted : List Char → List Char
  | [] => ['/']
  | '?' :: query => '/' :: '?' :: query
  | pathQuery => pathQuery

/-- Nothing, or what is left out of a target. -/
def IsFragment (text : List Char) : Prop :=
  text = [] ∨ ∃ more, text = '#' :: more

/-- How a target is written, and the path and query that stand in it. -/
inductive Spelled : List Char → List Char → Prop
  | asterisk : Spelled ['*'] ['*']
  /-- A path without anything in front of it. -/
  | origin {rest fragment : List Char} (whole : '#' ∉ rest) (isFragment : IsFragment fragment) :
    Spelled ('/' :: (rest ++ fragment)) ('/' :: rest)
  /-- A scheme and an authority in front, and a path or a query or neither behind. -/
  | absolute {scheme authority pathQuery fragment : List Char}
    (name : ∀ c ∈ scheme, isSchemeChar c = true)
    (inside : ∀ c ∈ authority, Authority.isEnd c = false)
    (starts : ∀ c ∈ pathQuery.head?, c = '/' ∨ c = '?') (whole : '#' ∉ pathQuery)
    (isFragment : IsFragment fragment) :
    Spelled (scheme ++ "://".toList ++ (authority ++ (pathQuery ++ fragment))) pathQuery
  /-- An authority alone. -/
  | authority {text : List Char} (other : text ≠ ['*'])
    (inside : ∀ c ∈ text, Authority.isEnd c = false) : Spelled text []

/-- A path and query in full is as it was written, but for a path that is empty. -/
theorem toList_pathQueryText (pathQuery : String) :
    (pathQueryText pathQuery).toList = rooted pathQuery.toList := by
  cases chars : pathQuery.toList with
  | nil =>
    simp only [pathQueryText, pathOf, before, after?, chars]
    rfl
  | cons c rest =>
    by_cases mark : c = '?'
    · subst mark
      simp only [pathQueryText, pathOf, before, after?, chars]
      show ("/" ++ ("?" ++ String.ofList rest)).toList = '/' :: '?' :: rest
      simp only [String.toList_append, String.toList_ofList]
      rfl
    · have path : (before '?' pathQuery).isEmpty = false := by
        rw [before, chars, List.takeWhile_cons_of_pos (p := (· != '?')) (bne_iff_ne.mpr mark)]
        simp
      have rooted_eq : rooted (c :: rest) = c :: rest := by
        unfold rooted
        split
        · rename_i empty
          cases empty
        · rename_i same
          exact absurd (List.cons.inj same).1 mark
        · rfl
      have parts : pathQuery.toList.takeWhile (· != '?') ++
          pathQuery.toList.dropWhile (· != '?') = pathQuery.toList :=
        List.takeWhile_append_dropWhile
      rw [rooted_eq, ← chars, pathQueryText, pathOf, path, ← parts]
      cases left : pathQuery.toList.dropWhile (· != '?') with
      | nil =>
        simp only [after?, left]
        show (before '?' pathQuery ++ "").toList = _
        rw [String.append_empty, before, String.toList_ofList, List.append_nil]
      | cons d more =>
        -- what is left starts with the mark that it was cut at
        have stop := List.head?_dropWhile_not (· != '?') pathQuery.toList
        rw [left] at stop
        obtain rfl : d = '?' := by simpa using stop
        simp only [after?, left]
        show (before '?' pathQuery ++ ("?" ++ String.ofList more)).toList = _
        simp only [before, String.toList_append, String.toList_ofList]
        rfl

/-- **The request line has the path and query** of a target, and nothing else of it. -/
theorem toList_originForm (target : Target) :
    target.originForm.toList = rooted (target.pathQuery.getD "").toList := by
  rw [originForm]
  cases target.pathQuery with
  | none => rfl
  | some pathQuery => exact toList_pathQueryText pathQuery

/-- A text is cut where its fragment starts. -/
theorem exists_withoutFragment (chars : List Char) :
    ∃ fragment, chars = (withoutFragment chars).toList ++ fragment ∧ IsFragment fragment ∧
      '#' ∉ (withoutFragment chars).toList := by
  refine ⟨chars.dropWhile (· != '#'), ?_, ?_, ?_⟩
  · rw [withoutFragment, String.toList_ofList, List.takeWhile_append_dropWhile]
  · cases left : chars.dropWhile (· != '#') with
    | nil => exact .inl rfl
    | cons c more =>
      have stop := List.head?_dropWhile_not (· != '#') chars
      rw [left] at stop
      obtain rfl : c = '#' := by simpa using stop
      exact .inr ⟨more, rfl⟩
  · rw [withoutFragment, String.toList_ofList]
    intro mem
    exact absurd (List.mem_takeWhile_imp mem) (by decide)

/-- What is read as a scheme, an authority and what follows. -/
theorem spelled_of_absolute? {scheme rest : List Char} {target : Target}
    (name : ∀ c ∈ scheme, isSchemeChar c = true) (h : absolute? scheme rest = some target) :
    Spelled (scheme ++ "://".toList ++ rest) (target.pathQuery.getD "").toList := by
  rw [absolute?] at h
  split at h
  · cases h
  · rename_i after scanned
    obtain ⟨authority, rfl, inside, border⟩ := Authority.exists_of_scan scanned
    obtain ⟨fragment, cut, isFragment, whole⟩ := exists_withoutFragment after
    have pathQuery : (target.pathQuery.getD "").toList = (withoutFragment after).toList := by
      simp only at h
      split at h
      · cases h
      · cases h
        rfl
    have starts : ∀ c ∈ (withoutFragment after).toList.head?, c = '/' ∨ c = '?' := by
      intro c first
      have here : c ∈ after.head? := by
        rw [cut, List.head?_append, Option.mem_def.mp first]
        rfl
      have ends : c = '/' ∨ c = '?' ∨ c = '#' := by
        simpa [Authority.isEnd, or_assoc] using border c here
      rcases ends with slash | mark | rfl
      · exact .inl slash
      · exact .inr mark
      · exact absurd (List.mem_of_mem_head? first) whole
    rw [pathQuery, cut]
    have spelled := Spelled.absolute name inside starts whole isFragment
    rwa [← cut] at spelled ⊢

/-- **A text that is read as a target is written like one**, and the target has the path and
query that stand in it. -/
theorem spelled_of_ofString? {uri : String} {target : Target} (h : ofString? uri = some target) :
    Spelled uri.toList (target.pathQuery.getD "").toList := by
  rw [ofString?] at h
  split at h
  · rename_i chars
    cases h
    rw [chars]
    exact .asterisk
  · rename_i rest chars
    cases h
    rw [chars]
    obtain ⟨fragment, cut, isFragment, whole⟩ := exists_withoutFragment rest
    have slash : (withoutFragment ('/' :: rest)).toList =
        '/' :: (withoutFragment rest).toList := by
      rw [withoutFragment, withoutFragment, String.toList_ofList, String.toList_ofList]
      rfl
    show Spelled ('/' :: rest) (withoutFragment ('/' :: rest)).toList
    rw [slash]
    have spelled := Spelled.origin whole isFragment
    rwa [← cut] at spelled
  · rename_i other _
    split at h
    · rename_i scheme rest split
      rw [splitScheme?] at split
      split at split
      · rename_i more marks
        cases split
        have parts : uri.toList = uri.toList.takeWhile isSchemeChar ++ "://".toList ++ rest := by
          rw [List.append_assoc]
          show _ = _ ++ (':' :: '/' :: '/' :: rest)
          rw [← marks, List.takeWhile_append_dropWhile]
        rw [parts]
        exact spelled_of_absolute? (fun c mem => List.mem_takeWhile_imp mem) h
      · cases split
    · split at h
      · rename_i checked
        cases h
        refine .authority other ?_
        -- a check is a scan that leaves nothing
        rw [Authority.check] at checked
        split at checked
        · cases checked
        · split at checked
          · rename_i scanned
            obtain ⟨authority, parts, inside, -⟩ := Authority.exists_of_scan scanned
            rw [List.append_nil] at parts
            rwa [parts]
          · cases checked
          · cases checked
      · cases h

end Target

end Http

/-! ## Requests -/

namespace Proxy

open Backend (Client Forwarded Reply)
open Http (Request Target)

/-- A request as the backend is to see it: as it came, with the path and query as its target,
one host, and the given values under every other name of a header. -/
structure Carries (client : Client) (request : Request) (values : String → List Bytes)
    (forwarded : Forwarded) : Prop where
  method : forwarded.method = request.method
  body : forwarded.body = request.body
  target : forwarded.target.toList = Target.rooted (request.target.pathQuery.getD "").toList
  /-- The same in the words of the text that the target was read from. -/
  uri : ∀ uri, Target.ofString? uri = some request.target →
    ∃ pathQuery, Target.Spelled uri.toList pathQuery ∧
      forwarded.target.toList = Target.rooted pathQuery
  host : forwarded.headers.values "host" = [Utf8.encode (Http.Authority.hostHeader client.authority)]
  headers : ∀ name, name ≠ "host" → forwarded.headers.values name = values name

/-- The header values of a request with one ID: the fresh one, if it came with none. -/
def numberedValues (request : Request) (fresh : Bytes) (name : String) : List Bytes :=
  if name = idHeader ∧ request.headers.values idHeader = [] then [fresh]
  else request.headers.values name

/-- **Addressing never fails**, and what is addressed carries the request. -/
theorem exists_carries (client : Client) (request : Request) :
    ∃ forwarded, client.forward request = .ok forwarded ∧
      Carries client request request.headers.values forwarded := by
  let addressed : Target :=
    ⟨some "http", some client.authority, some (request.target.pathQuery.getD "/")⟩
  -- a path that is missing and one that is empty are both a slash
  have target : addressed.originForm.toList =
      Target.rooted (request.target.pathQuery.getD "").toList := by
    rw [Target.toList_originForm]
    cases h : request.target.pathQuery with
    | none =>
      show Target.rooted ((request.target.pathQuery.getD "/").toList) = _
      rw [h]
      rfl
    | some pathQuery =>
      show Target.rooted ((request.target.pathQuery.getD "/").toList) = _
      rw [h]
      rfl
  refine ⟨_, rfl, rfl, rfl, target, ?_, ?_, ?_⟩
  · intro uri read
    exact ⟨_, Target.spelled_of_ofString? read, target⟩
  · show Http.Headers.values (request.headers.remove "host" ++ [("host", _)]) "host" = _
    have removed : (request.headers.remove "host").values "host" = [] := by
      rw [Http.Headers.values, Http.Headers.remove, List.filter_filter, List.map_eq_nil_iff,
        List.filter_eq_nil_iff]
      intro header _
      simp
    rw [Http.Headers.values_append, removed, Http.Headers.values_self, List.nil_append]
  · intro name other
    show Http.Headers.values (request.headers.remove "host" ++ [("host", _)]) name = _
    rw [Http.Headers.values_append, Http.Headers.values_remove other,
      Http.Headers.values_of_ne other.symm, List.append_nil]

/-- The headers of a request under its ID. -/
theorem values_withId (request : Request) (fresh : Bytes) (name : String) :
    (withId request fresh).1.headers.values name = numberedValues request fresh name := by
  rw [withId, numberedValues]
  cases found : request.headers.values idHeader with
  | nil =>
    have missing : request.headers.first? idHeader = none := by
      rw [Http.Headers.first?, found]
      rfl
    rw [missing]
    show Http.Headers.values (request.headers ++ [(idHeader, fresh)]) name = _
    rw [Http.Headers.values_append]
    by_cases same : name = idHeader
    · subst same
      rw [if_pos ⟨rfl, rfl⟩, found, Http.Headers.values_self, List.nil_append]
    · rw [if_neg fun both => same both.1, Http.Headers.values_of_ne (Ne.symm same),
        List.append_nil]
  | cons id more =>
    have present : request.headers.first? idHeader = some id := by
      rw [Http.Headers.first?, found]
      rfl
    rw [present, if_neg (by simp)]

/-- **Under its ID** a request is carried with that ID among its headers. -/
theorem exists_carries_withId (client : Client) (request : Request) (fresh : Bytes) :
    ∃ numbered, client.forward (withId request fresh).1 = .ok numbered ∧
      Carries client request (numberedValues request fresh) numbered := by
  obtain ⟨numbered, addressed, carries⟩ := exists_carries client (withId request fresh).1
  refine ⟨numbered, addressed, ?_, ?_, ?_, ?_, carries.host, ?_⟩
  · rw [carries.method, withId_method]
  · have body : (withId request fresh).1.body = request.body := by
      rw [withId]
      split <;> rfl
    rw [carries.body, body]
  · rw [carries.target, withId_target]
  · intro uri read
    exact carries.uri uri (by rwa [withId_target])
  · intro name other
    rw [carries.headers name other, values_withId]

/-- What the backend sees of a request, if it is not refused. -/
theorem handleRouted_seen {client : Client} {request : Request} {numbered : Forwarded}
    (addressed : client.forward request = .ok numbered) (id : String) (reply : Reply) :
    (handleRouted client request id reply).forwarded =
      if reply = .refused then none else some numbered := by
  cases reply with
  | refused => rfl
  | unreadable => exact congrArg Except.toOption addressed
  | response response => exact congrArg Except.toOption addressed

section Seen

variable {client : Client} {request : Request} {fresh : Bytes} {numbered : Forwarded}
  (addressed : client.forward (withId request fresh).1 = .ok numbered) (requestSecs : Nat)

include addressed

/-- The backend sees nothing but what the client sends. -/
theorem serve_seen_or (exchange : Exchange) :
    (serve client requestSecs request fresh exchange).forwarded = none ∨
      (serve client requestSecs request fresh exchange).forwarded = some numbered := by
  obtain ⟨inner, served, course⟩ := serve_eq_around client requestSecs request fresh exchange
  rw [served, around_eq]
  show (inside request fresh inner).forwarded = none ∨
    (inside request fresh inner).forwarded = some numbered
  rw [inside]
  split
  · rcases course with rfl | ⟨-, reply, -, rfl⟩
    · exact .inl rfl
    · rw [handleRouted_seen addressed]
      by_cases refused : reply = .refused
      · exact .inl (if_pos refused)
      · exact .inr (if_neg refused)
  · exact .inl rfl

/-- It does see that if the request has a route, and it takes it in time. -/
theorem serve_seen {reply : Reply} (taken : reply ≠ .refused) (routed : isRouted request = true)
    (inTime : outlasts requestSecs (.reply reply) = false) :
    (serve client requestSecs request fresh (.reply reply)).forwarded = some numbered := by
  rw [serve, inTime, if_neg Bool.false_ne_true, handle, around_eq]
  show (inside request fresh _).forwarded = _
  rw [inside, if_pos routed, handleRouted_seen addressed, if_neg taken]

end Seen

/-- **Every request goes through.** It can always be addressed to the backend, whatever its
target and the authority are, and no call fails for that reason. What is sent has the method,
the body, the path and query and the headers of the request, except that there is one host,
that of the backend; the scheme and the authority of the target leave no trace. The proxy
sends the same, except that a request without an ID is given one. -/
theorem request_goes_through (client : Client) (request : Request) (fresh : Bytes) :
    (∃ forwarded, client.forward request = .ok forwarded ∧
      Carries client request request.headers.values forwarded ∧
      ∀ scheme authority, client.forward
        { request with target := ⟨scheme, authority, request.target.pathQuery⟩ } = .ok forwarded) ∧
    (∀ reply cause, client.call request reply ≠ .error (.request cause)) ∧
    (∃ numbered, Carries client request (numberedValues request fresh) numbered ∧
      ∀ requestSecs exchange,
        let seen := (serve client requestSecs request fresh exchange).forwarded
        (seen = none ∨ seen = some numbered) ∧
        ∀ reply, exchange = .reply reply → reply ≠ .refused → isRouted request = true →
          outlasts requestSecs exchange = false → seen = some numbered) ∧
    (∀ user host text port, Http.Authority.IsUser user → Http.Authority.IsHost host →
      Http.Authority.IsPort text port → client.authority.toList = user ++ (host ++ text) →
      (Http.Authority.hostHeader client.authority).toList = Http.Authority.shown host port) := by
  obtain ⟨forwarded, addressed, carries⟩ := exists_carries client request
  obtain ⟨numbered, sent, carried⟩ := exists_carries_withId client request fresh
  refine ⟨⟨forwarded, addressed, carries, fun _ _ => addressed⟩, ?_, ⟨numbered, carried, ?_⟩, ?_⟩
  · intro reply cause failed
    rw [Client.call_eq_result] at failed
    cases reply with
    | refused => cases failed
    | unreadable => cases failed
    | response response =>
      rw [Client.result] at failed
      split at failed
      · cases failed
      · -- the error of a failed response is about its body or its status
        rw [Client.failed] at failed
        split at failed
        · cases failed
        · split at failed <;> cases failed
  · intro requestSecs exchange seen
    refine ⟨serve_seen_or sent requestSecs exchange, ?_⟩
    rintro reply rfl taken routed inTime
    exact serve_seen sent requestSecs taken routed inTime
  · intro user host text port isUser isHost isPort parts
    exact Http.Authority.toList_hostHeader isUser isHost isPort parts

/-- A request with a whole URI, a path that is empty in it, two hosts and no ID, to a backend
that is given by a user, an address between brackets and a port. -/
theorem absolute_request_goes_through :
    let client : Client := ⟨"git@[::1]:8075"⟩
    let request : Request := {
      method := "POST"
      target := ⟨some "http", some "joe@example.com:81", some "?service=git-upload-pack"⟩
      headers := [("host", [0x61]), ("accept", [0x78]), ("host", [0x62]), ("accept", [0x79])]
      body := [0x30] }
    let fresh := Utf8.encode (CorrelationId.fresh 7)
    Target.ofString? "http://joe@example.com:81?service=git-upload-pack#top" =
        some request.target ∧
      (∃ forwarded, client.forward request = .ok forwarded ∧
        forwarded.target.toList = "/?service=git-upload-pack".toList ∧
        forwarded.headers.values "host" = [Utf8.encode "[::1]:8075"] ∧
        forwarded.headers.values "accept" = [[0x78], [0x79]]) ∧
      ∃ numbered, (serve client 600 request fresh (.reply .unreadable)).forwarded = some numbered ∧
        numbered.headers.values idHeader = [fresh] := by
  intro client request fresh
  obtain ⟨⟨forwarded, addressed, carries, -⟩, -, ⟨numbered, carried, seen⟩, named⟩ :=
    request_goes_through client request fresh
  refine ⟨by decide +kernel, ⟨forwarded, addressed, ?_, ?_, ?_⟩, numbered, ?_, ?_⟩
  · rw [carries.target]
    decide
  · -- the user is left out, and the brackets stay
    have isUser : Http.Authority.IsUser "git@".toList := .inr ⟨"git".toList, by decide⟩
    have isHost : Http.Authority.IsHost "[::1]".toList :=
      @Http.Authority.IsHost.address "::1".toList (by simp)
    have isPort : Http.Authority.IsPort ":8075".toList (some 8075) :=
      @Http.Authority.IsPort.number "8075".toList (by simp) (by simp) (by decide)
    have shown := named _ _ _ _ isUser isHost isPort (by decide)
    have header : Http.Authority.hostHeader client.authority = "[::1]:8075" := by
      refine String.toList_inj.mp (shown.trans ?_)
      decide
    rw [carries.host, header]
  · rw [carries.headers "accept" (by decide)]
    decide
  · exact (seen 600 (.reply .unreadable)).2 .unreadable rfl nofun (by decide +kernel) (by decide)
  · rw [carried.headers idHeader (by decide)]
    rfl

end Proxy

end GitGateway
