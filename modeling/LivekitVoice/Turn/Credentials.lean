import LivekitVoice.Net.IpAddr
import LivekitVoice.Text.Decimal
import LivekitVoice.Turn.Base62

/-! # TURN credentials

The user name and password that `ice_servers` hands to a participant, and the handler that the TURN
server asks for the key of a user. SHA-256, `generate_auth_key` and the text of an address are
parameters; arithmetic on `i64` wraps around.

* **`authHandle_turnUsername`** — what the handler answers to a user name that was issued,
* **`authHandle_iceServers_iff`** — when the credentials that are issued authenticate. -/

namespace LivekitVoice.Turn

open Text Net

/-! ## Names and passwords -/

/-- The bytes of a text. -/
def utf8Bytes (s : String) : List UInt8 := s.toByteArray.data.toList

/-- `String::from_utf8`. -/
def fromUtf8 (bytes : List UInt8) : Option String := String.fromUTF8? ⟨bytes.toArray⟩

theorem fromUtf8_utf8Bytes (s : String) : fromUtf8 (utf8Bytes s) = some s := by
  have hbytes : (⟨(utf8Bytes s).toArray⟩ : ByteArray) = s.toByteArray := by
    rw [utf8Bytes, Array.toArray_toList]
  rw [fromUtf8, hbytes, String.fromUTF8?, dif_pos s.isValidUTF8]
  rfl

/-- What a user name encodes: three fields between bars. -/
def usernameText (apiKey participantId : String) (expiryUnix : Int64) : String :=
  apiKey ++ "|" ++ participantId ++ "|" ++ .ofList (formatInt 0 expiryUnix.toInt)

/-- **`turn_username`.** -/
def turnUsername (apiKey participantId : String) (expiryUnix : Int64) : String :=
  b62Encode (utf8Bytes (usernameText apiKey participantId expiryUnix))

/-- **`turn_password`.** -/
def turnPassword (sha256 : List UInt8 → List UInt8) (secret participantId : String)
    (expiryUnix : Int64) : String :=
  b62Encode (sha256 (utf8Bytes (usernameText secret participantId expiryUnix)))

theorem bar_not_mem_formatInt (n : Int) : '|' ∉ formatInt 0 n := by
  rw [← Numeral.chars_ofInt]
  exact Numeral.not_mem_chars (by decide) (by decide) (by decide)

/-- **The fields are taken apart at the bars.** -/
theorem splitOn_usernameText {apiKey participantId : String} (hkey : '|' ∉ apiKey.toList)
    (hid : '|' ∉ participantId.toList) (expiry : Int64) :
    (usernameText apiKey participantId expiry).toList.splitOn '|' =
      [apiKey.toList, participantId.toList, formatInt 0 expiry.toInt] := by
  simp only [usernameText, String.toList_append, String.toList_ofList]
  simp [splitOn_append hkey, splitOn_append hid, splitOn_eq_self (bar_not_mem_formatInt _)]

theorem parseI64_expiry (expiry : Int64) :
    parseI64 (formatInt 0 expiry.toInt) = some expiry.toInt := by
  have hlow := expiry.le_toInt
  have hhigh := expiry.toInt_lt
  exact parseInt_formatInt 0 (by omega) (by omega)

theorem decode_turnUsername (apiKey participantId : String) (expiry : Int64) :
    (b62Decode (turnUsername apiKey participantId expiry)).bind fromUtf8 =
      some (usernameText apiKey participantId expiry) := by
  have hbytes : b62Decode (turnUsername apiKey participantId expiry) =
      some (utf8Bytes (usernameText apiKey participantId expiry)) := by
    rw [b62Decode, turnUsername, b62Encode, String.toList_ofList]
    exact finish_decodeLoop_b62Loop _
  rw [hbytes, Option.bind_some, fromUtf8_utf8Bytes]

/-- **A user name determines its fields.** -/
theorem eq_of_turnUsername_eq {key key' id id' : String} {expiry expiry' : Int64}
    (hkey : '|' ∉ key.toList) (hkey' : '|' ∉ key'.toList) (hid : '|' ∉ id.toList)
    (hid' : '|' ∉ id'.toList) (h : turnUsername key id expiry = turnUsername key' id' expiry') :
    key = key' ∧ id = id' ∧ expiry = expiry' := by
  have htext := decode_turnUsername key id expiry
  rw [h, decode_turnUsername, Option.some.injEq] at htext
  have hfields := splitOn_usernameText hkey hid expiry
  rw [← htext, splitOn_usernameText hkey' hid' expiry'] at hfields
  injection hfields with hkeys hfields
  injection hfields with hids hfields
  injection hfields with hnumbers
  refine ⟨String.toList_injective hkeys.symm, String.toList_injective hids.symm, ?_⟩
  -- both expiries are read from the same digits
  have hread := parseI64_expiry expiry
  rw [← hnumbers, parseI64_expiry expiry', Option.some.injEq] at hread
  exact (Int64.toInt_inj.mp hread).symm

/-! ## The handler -/

/-- **A map of API keys to secrets**, in the order of the keys. -/
structure KeyMap where
  entries : List (String × String)
  sorted : entries.Pairwise fun a b => a.1 < b.1

namespace KeyMap

def get (keys : KeyMap) (key : String) : Option String := keys.entries.lookup key

/-- The first entry (`iter().next()`). -/
def first (keys : KeyMap) : Option (String × String) := keys.entries.head?

variable {keys : KeyMap} {key secret : String}

theorem get_first (h : keys.first = some (key, secret)) : keys.get key = some secret := by
  obtain ⟨entries, hentries⟩ := List.head?_eq_some_iff.mp h
  rw [get, hentries, List.lookup_cons_self]

theorem mem_of_first (h : keys.first = some (key, secret)) : (key, secret) ∈ keys.entries :=
  List.mem_of_head? h

end KeyMap

/-- The error of the handler. -/
inductive TurnError
  | errNoSuchUser

section Handler

variable (sha256 : List UInt8 → List UInt8)
  (generateAuthKey : String → String → String → List UInt8)

/-- **`auth_handle`.** -/
def authHandle (keys : KeyMap) (username realm : String) : Except TurnError (List UInt8) :=
  match (b62Decode username).bind fromUtf8 with
  | none => .error .errNoSuchUser
  | some decoded =>
    match decoded.toList.splitOn '|' with
    | [key, participantId, number] =>
      match (parseI64 number).map Int64.ofInt with
      | none => .error .errNoSuchUser
      | some expiry =>
        if expiry = 0 then .error .errNoSuchUser
        else
          match keys.get (.ofList key) with
          | none => .error .errNoSuchUser
          | some secret =>
            .ok (generateAuthKey username realm
              (turnPassword sha256 secret (.ofList participantId) expiry))
    | _ => .error .errNoSuchUser

/-- **The answer to a user name that was issued.** -/
theorem authHandle_turnUsername {keys : KeyMap} {key secret participantId : String}
    (hkey : '|' ∉ key.toList) (hid : '|' ∉ participantId.toList)
    (hget : keys.get key = some secret) (expiry : Int64) (realm : String) :
    authHandle sha256 generateAuthKey keys (turnUsername key participantId expiry) realm =
      if expiry = 0 then .error .errNoSuchUser
      else .ok (generateAuthKey (turnUsername key participantId expiry) realm
        (turnPassword sha256 secret participantId expiry)) := by
  unfold authHandle
  rw [decode_turnUsername]
  simp only [splitOn_usernameText hkey hid, parseI64_expiry, Option.map_some, Int64.ofInt_toInt,
    String.ofList_toList, hget]

end Handler

/-! ## The address that is advertised -/

/-- `rtc.node_ip` and `rtc.ips.includes`. -/
structure RtcConfig where
  nodeIp : String
  includes : List String

/-- What is read of the `turn` section. -/
structure TurnConfig where
  enabled : Bool
  domain : String
  udpPort : UInt16
  ttl : UInt64

structure Config where
  rtc : RtcConfig
  turn : TurnConfig

/-- `is_private`, with the loopback addresses. -/
def isPrivate : IpAddr → Bool
  | .v4 bits =>
    -- 10.0.0.0/8, 172.16.0.0/12, 192.168.0.0/16, 127.0.0.0/8
    bits >>> 24 == 10 || bits >>> 20 == 2753 || bits >>> 16 == 49320 || bits >>> 24 == 127
  | .v6 bits => bits == 1 || (bits >>> 112) &&& 0xfe00 == 0xfc00

/-- A bare address, or the address of a network. -/
def ipFrom (s : String) : Option IpAddr :=
  (parseIpAddr s).or ((splitOnce '/' s.toList).bind fun parts => parseIpAddr (.ofList parts.1))

/-- **`external_ip`**: that of the node, the first public one, the first one, or the loopback
address. -/
def externalIp (rtc : RtcConfig) : IpAddr :=
  let node := if rtc.nodeIp = "" then none else parseIpAddr rtc.nodeIp
  let included := rtc.includes.filterMap ipFrom
  (node.or ((included.find? fun ip => !isPrivate ip).or included.head?)).getD (.v4 0x7f000001)

/-! ## What is issued -/

/-- `lk_proto::livekit::IceServer`. -/
structure IceServer where
  urls : List String
  username : String
  credential : String

/-- **The expiry**: `unix_seconds() + config.turn.ttl.max(1) as i64`. -/
def expiry (now : Int64) (ttl : UInt64) : Int64 := now + (max ttl 1).toInt64

section Issue

variable (sha256 : List UInt8 → List UInt8) (display : IpAddr → String)

/-- **`ice_servers`.** -/
def iceServers (config : Config) (keys : KeyMap) (now : Int64) (participantId : String) :
    List IceServer :=
  if config.turn.enabled = false ∨ config.turn.udpPort = 0 then []
  else
    match keys.first with
    | none => []
    | some (apiKey, secret) =>
      let expiry := expiry now config.turn.ttl
      let host := if config.turn.domain = "" then display (externalIp config.rtc)
        else config.turn.domain
      let url := "turn:" ++ host ++ ":" ++ toString config.turn.udpPort.toNat ++ "?transport=udp"
      [{ urls := [url]
         username := turnUsername apiKey participantId expiry
         credential := turnPassword sha256 secret participantId expiry }]

end Issue

/-- **An expiry is zero** if the time to live, which may be any `u64`, wraps around to it. -/
theorem expiry_eq_zero_iff {now : Int64} (hnow : 0 ≤ now.toInt) (ttl : UInt64) :
    expiry now ttl = 0 ↔ now.toInt + (max ttl 1).toNat = 18446744073709551616 := by
  have hone : 1 ≤ (max ttl 1).toNat := by
    rw [UInt64.toNat_max]
    exact Nat.le_max_right _ _
  obtain ⟨x, hx⟩ : ∃ x, max ttl 1 = x := ⟨_, rfl⟩
  rw [expiry, hx]
  rw [hx] at hone
  have hlt := x.toNat_lt
  have hhigh := now.toInt_lt
  have hcast : x.toInt64.toInt = (x.toNat : Int).bmod 18446744073709551616 :=
    BitVec.toInt_eq_toNat_bmod _
  rw [← Int64.toInt_inj, Int64.toInt_add, hcast, Int64.toInt_zero, Int.add_bmod_bmod,
    ← Int.dvd_iff_bmod_eq_zero]
  omega

section Issue

variable (sha256 : List UInt8 → List UInt8)
  (generateAuthKey : String → String → String → List UInt8) (display : IpAddr → String)
  (config : Config) (keys : KeyMap)

theorem iceServers_eq (henabled : config.turn.enabled) (hport : config.turn.udpPort ≠ 0)
    {key secret : String} (hfirst : keys.first = some (key, secret)) (now : Int64)
    (participantId : String) :
    ∃ urls, iceServers sha256 display config keys now participantId =
      [{ urls := urls
         username := turnUsername key participantId (expiry now config.turn.ttl)
         credential :=
           turnPassword sha256 secret participantId (expiry now config.turn.ttl) }] := by
  rw [iceServers, if_neg (by simp [henabled, hport]), hfirst]
  exact ⟨_, rfl⟩

/-- **Issued credentials authenticate** unless the expiry wraps around to zero, and different issues
have different user names. Without a port nothing is issued. -/
theorem authHandle_iceServers_iff (henabled : config.turn.enabled) (hkeys : keys.entries ≠ [])
    (hbars : ∀ entry ∈ keys.entries, '|' ∉ entry.1.toList) (participantId : String)
    (hid : '|' ∉ participantId.toList) (now : Int64) (hnow : 0 ≤ now.toInt) :
    (config.turn.udpPort = 0 → iceServers sha256 display config keys now participantId = []) ∧
    (config.turn.udpPort ≠ 0 →
      ∃ server key secret, iceServers sha256 display config keys now participantId = [server] ∧
        keys.first = some (key, secret) ∧
        server.username = turnUsername key participantId (expiry now config.turn.ttl) ∧
        ∀ realm, authHandle sha256 generateAuthKey keys server.username realm =
            .ok (generateAuthKey server.username realm server.credential) ↔
          now.toInt + (max config.turn.ttl 1).toNat ≠ 18446744073709551616) ∧
    ∀ {key key' id id' : String} {e e' : Int64}, '|' ∉ key.toList → '|' ∉ key'.toList →
      '|' ∉ id.toList → '|' ∉ id'.toList → (key, id, e) ≠ (key', id', e') →
      turnUsername key id e ≠ turnUsername key' id' e' := by
  refine ⟨fun hport => ?_, fun hport => ?_, ?_⟩
  · rw [iceServers, if_pos (.inr hport)]
  · obtain ⟨⟨key, secret⟩, entries, hentries⟩ := List.exists_cons_of_ne_nil hkeys
    have hfirst : keys.first = some (key, secret) := by rw [KeyMap.first, hentries, List.head?_cons]
    have hkey : '|' ∉ key.toList := hbars _ (KeyMap.mem_of_first hfirst)
    obtain ⟨urls, hissued⟩ :=
      iceServers_eq sha256 display config keys henabled hport hfirst now participantId
    refine ⟨_, key, secret, hissued, hfirst, rfl, fun realm => ?_⟩
    rw [authHandle_turnUsername sha256 generateAuthKey hkey hid (KeyMap.get_first hfirst),
      ne_eq, ← expiry_eq_zero_iff hnow]
    split
    · next hzero => simp [hzero]
    · next hzero => simp [hzero]
  · intro key key' id id' e e' hkey hkey' hid hid' hne h
    obtain ⟨rfl, rfl, rfl⟩ := eq_of_turnUsername_eq hkey hkey' hid hid' h
    exact hne rfl

end Issue

/-- One key. -/
def oneKey : KeyMap := ⟨[("devkey", "secret")], List.pairwise_singleton _ _⟩

/-- TURN enabled, with a time to live. -/
def turnEnabled (ttl : UInt64) : Config where
  rtc := ⟨"", []⟩
  turn := ⟨true, "turn.example.com", 3478, ttl⟩

/-- The text of a key, in place of its hash. -/
def plainAuthKey (username realm password : String) : List UInt8 :=
  utf8Bytes (username ++ ":" ++ realm ++ ":" ++ password)

theorem bar_not_mem_oneKey : ∀ entry ∈ oneKey.entries, '|' ∉ entry.1.toList := by
  intro entry hentry
  rw [List.mem_singleton.mp hentry]
  decide

/-- The default time to live, in 2023. -/
theorem authHandle_iceServers_default :
    ∃ server, iceServers id (fun _ => "") (turnEnabled 300) oneKey 1700000000 "PA_1" = [server] ∧
      authHandle id plainAuthKey oneKey server.username "livekit" =
        .ok (plainAuthKey server.username "livekit" server.credential) := by
  obtain ⟨-, hissued, -⟩ := authHandle_iceServers_iff id plainAuthKey (fun _ => "")
    (turnEnabled 300) oneKey rfl (by decide) bar_not_mem_oneKey "PA_1" (by decide) 1700000000
    (by decide)
  obtain ⟨server, -, -, hserver, -, -, hauth⟩ := hissued (by decide)
  exact ⟨server, hserver, (hauth "livekit").mpr (by decide)⟩

/-- A time to live that, as an `i64`, is the time that has passed since 1970 with a minus. -/
theorem authHandle_iceServers_refused :
    ∃ server, iceServers id (fun _ => "") (turnEnabled 18446744072009551616) oneKey 1700000000
        "PA_1" = [server] ∧
      authHandle id plainAuthKey oneKey server.username "livekit" = .error .errNoSuchUser := by
  have hget : oneKey.get "devkey" = some "secret" := rfl
  obtain ⟨urls, hissued⟩ := iceServers_eq id (fun _ => "") (turnEnabled 18446744072009551616) oneKey
    rfl (by decide) rfl 1700000000 "PA_1"
  refine ⟨_, hissued, ?_⟩
  rw [authHandle_turnUsername id plainAuthKey (by decide) (by decide) hget, if_pos (by decide)]

end LivekitVoice.Turn
