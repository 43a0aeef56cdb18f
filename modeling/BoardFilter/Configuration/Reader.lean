import BoardFilter.Configuration.Basic
import BoardFilter.Toml.Decode
import BoardFilter.Toml.Reader

/-!
# The configuration file

The file is TOML with a table for the blacklist and one for the site. Everything may be left out,
and unknown names are ignored. Without a file a commented one is written, which differs from an
empty one in that it exempts favorites.
-/

namespace BoardFilter.Configuration

open Toml

def blacklist? (v : Toml) : Option Blacklist :=
  let usual : Blacklist := {}
  match slots? ["filters", "enabled", "exclude_favorites", "exclude_uploads", "whitelist"] v with
  | some [lines, enabled, favorites, uploads, whitelist] => do
    let lines ← field? usual.lines asTexts? lines
    let enabled ← field? usual.enabled asBool? enabled
    let exemptFavorites ← field? usual.exemptFavorites asBool? favorites
    let exemptUploads ← field? usual.exemptUploads asBool? uploads
    let whitelist ← field? usual.whitelist asTexts? whitelist
    return { lines, enabled, exemptFavorites, exemptUploads, whitelist }
  | _ => none

def site? (v : Toml) : Option Site.Config :=
  let usual : Site.Config := {}
  match slots? ["base_url", "user_agent", "delay_ms", "username", "api_key"] v with
  | some [baseUrl, userAgent, delay, username, apiKey] => do
    let baseUrl ← field? usual.baseUrl asText? baseUrl
    let userAgent ← field? usual.userAgent asText? userAgent
    let delay ← field? usual.delay asNat? delay
    let username ← field? none (fun v => (asText? v).map some) username
    let apiKey ← field? none (fun v => (asText? v).map some) apiKey
    return { baseUrl, userAgent, delay, username, apiKey }
  | _ => none

def Blacklist.ofText? (s : String) : Option Blacklist := do
  let fields ← parse? s
  field? {} blacklist? (lookup "blacklist" fields)

def ofText? (s : String) : Option Configuration := do
  let fields ← parse? s
  let blacklist ← field? {} blacklist? (lookup "blacklist" fields)
  let site ← field? {} site? (lookup "api" fields)
  return { blacklist, site }

def defaultText : String :=
  "# e6filter configuration\n" ++
  "#\n" ++
  "# Blacklist lines use the site's syntax, one line per entry:\n" ++
  "#   tags, \x60-tag\x60 to exclude, \x60~tag\x60 for \"any of\", and metatags such as\n" ++
  "#   score:<0  rating:e  filesize:>5mb  type:webm  tagcount:<5  ratio:16:9\n" ++
  "#\n" ++
  "# Lines listed here are only read on the first run. After that the blacklist lives in\n" ++
  "# state.json next to this file and is managed with \x60e6f blacklist ...\x60.\n" ++
  "\n" ++
  "[blacklist]\n" ++
  "filters = []\n" ++
  "enabled = true\n" ++
  "exclude_favorites = true\n" ++
  "exclude_uploads = false\n" ++
  "whitelist = []\n" ++
  "\n" ++
  "[api]\n" ++
  "base_url = \"https://e621.net\"\n" ++
  "# Milliseconds between two requests. Values below 500 are raised to 500.\n" ++
  "delay_ms = 1000\n" ++
  "# username = \"\"\n" ++
  "# api_key = \"\"\n"

end BoardFilter.Configuration
