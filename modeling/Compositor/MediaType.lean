import Compositor.Address.Path
import Compositor.Text.Lowercase

/-!
# Media types

File extensions and the media types they stand for. Several extensions may stand
for one type; the first of them is the one a file of that type gets.
-/
namespace Compositor.MediaType

def table : List (String × String) := [
  (".js", "application/javascript"), (".mjs", "application/javascript"),
  (".json", "application/json"), (".webmanifest", "application/manifest+json"),
  (".doc", "application/msword"), (".dot", "application/msword"),
  (".wiz", "application/msword"), (".nq", "application/n-quads"),
  (".nt", "application/n-triples"), (".bin", "application/octet-stream"),
  (".a", "application/octet-stream"), (".dll", "application/octet-stream"),
  (".exe", "application/octet-stream"), (".o", "application/octet-stream"),
  (".obj", "application/octet-stream"), (".so", "application/octet-stream"),
  (".oda", "application/oda"), (".pdf", "application/pdf"), (".p7c", "application/pkcs7-mime"),
  (".ps", "application/postscript"), (".ai", "application/postscript"),
  (".eps", "application/postscript"), (".trig", "application/trig"),
  (".m3u", "application/vnd.apple.mpegurl"), (".m3u8", "application/vnd.apple.mpegurl"),
  (".xls", "application/vnd.ms-excel"), (".xlb", "application/vnd.ms-excel"),
  (".ppt", "application/vnd.ms-powerpoint"), (".pot", "application/vnd.ms-powerpoint"),
  (".ppa", "application/vnd.ms-powerpoint"), (".pps", "application/vnd.ms-powerpoint"),
  (".pwz", "application/vnd.ms-powerpoint"), (".wasm", "application/wasm"),
  (".bcpio", "application/x-bcpio"), (".cpio", "application/x-cpio"),
  (".csh", "application/x-csh"), (".dvi", "application/x-dvi"),
  (".gtar", "application/x-gtar"), (".hdf", "application/x-hdf"),
  (".h5", "application/x-hdf5"), (".latex", "application/x-latex"),
  (".mif", "application/x-mif"), (".cdf", "application/x-netcdf"),
  (".nc", "application/x-netcdf"), (".p12", "application/x-pkcs12"),
  (".pfx", "application/x-pkcs12"), (".ram", "application/x-pn-realaudio"),
  (".pyc", "application/x-python-code"), (".pyo", "application/x-python-code"),
  (".sh", "application/x-sh"), (".shar", "application/x-shar"),
  (".swf", "application/x-shockwave-flash"), (".sv4cpio", "application/x-sv4cpio"),
  (".sv4crc", "application/x-sv4crc"), (".tar", "application/x-tar"),
  (".tcl", "application/x-tcl"), (".tex", "application/x-tex"),
  (".texi", "application/x-texinfo"), (".texinfo", "application/x-texinfo"),
  (".roff", "application/x-troff"), (".t", "application/x-troff"),
  (".tr", "application/x-troff"), (".man", "application/x-troff-man"),
  (".me", "application/x-troff-me"), (".ms", "application/x-troff-ms"),
  (".ustar", "application/x-ustar"), (".src", "application/x-wais-source"),
  (".xsl", "application/xml"), (".rdf", "application/xml"), (".wsdl", "application/xml"),
  (".xpdl", "application/xml"), (".zip", "application/zip"), (".3gp", "audio/3gpp"),
  (".3gpp", "audio/3gpp"), (".3g2", "audio/3gpp2"), (".3gpp2", "audio/3gpp2"),
  (".aac", "audio/aac"), (".adts", "audio/aac"), (".loas", "audio/aac"), (".ass", "audio/aac"),
  (".au", "audio/basic"), (".snd", "audio/basic"), (".mp3", "audio/mpeg"),
  (".mp2", "audio/mpeg"), (".opus", "audio/opus"), (".aif", "audio/x-aiff"),
  (".aifc", "audio/x-aiff"), (".aiff", "audio/x-aiff"), (".ra", "audio/x-pn-realaudio"),
  (".wav", "audio/x-wav"), (".avif", "image/avif"), (".bmp", "image/bmp"),
  (".gif", "image/gif"), (".ief", "image/ief"), (".jpg", "image/jpeg"), (".jpe", "image/jpeg"),
  (".jpeg", "image/jpeg"), (".heic", "image/heic"), (".heif", "image/heif"),
  (".png", "image/png"), (".svg", "image/svg+xml"), (".tiff", "image/tiff"),
  (".tif", "image/tiff"), (".ico", "image/vnd.microsoft.icon"), (".ras", "image/x-cmu-raster"),
  (".pnm", "image/x-portable-anymap"), (".pbm", "image/x-portable-bitmap"),
  (".pgm", "image/x-portable-graymap"), (".ppm", "image/x-portable-pixmap"),
  (".rgb", "image/x-rgb"), (".xbm", "image/x-xbitmap"), (".xpm", "image/x-xpixmap"),
  (".xwd", "image/x-xwindowdump"), (".eml", "message/rfc822"), (".mht", "message/rfc822"),
  (".mhtml", "message/rfc822"), (".nws", "message/rfc822"), (".css", "text/css"),
  (".csv", "text/csv"), (".html", "text/html"), (".htm", "text/html"), (".n3", "text/n3"),
  (".txt", "text/plain"), (".bat", "text/plain"), (".c", "text/plain"), (".h", "text/plain"),
  (".ksh", "text/plain"), (".pl", "text/plain"), (".srt", "text/plain"),
  (".rtx", "text/richtext"), (".tsv", "text/tab-separated-values"), (".vtt", "text/vtt"),
  (".py", "text/x-python"), (".etx", "text/x-setext"), (".sgm", "text/x-sgml"),
  (".sgml", "text/x-sgml"), (".vcf", "text/x-vcard"), (".xml", "text/xml"),
  (".mp4", "video/mp4"), (".mpeg", "video/mpeg"), (".m1v", "video/mpeg"),
  (".mpa", "video/mpeg"), (".mpe", "video/mpeg"), (".mpg", "video/mpeg"),
  (".mov", "video/quicktime"), (".qt", "video/quicktime"), (".webm", "video/webm"),
  (".avi", "video/x-msvideo"), (".movie", "video/x-sgi-movie")]

/-- Extensions that are short for two. -/
def shorthands : List (String × String) :=
  [(".svgz", ".svg.gz"), (".tgz", ".tar.gz"), (".taz", ".tar.gz"), (".tz", ".tar.gz"),
    (".tbz2", ".tar.bz2"), (".txz", ".tar.xz")]

/-- Extensions that name a compression and leave the type to the one before them. -/
def compressions : List String := [".gz", ".Z", ".bz2", ".xz", ".br"]

/-- The extension of a file of some type, whatever the case of its name. -/
def extension? (type : String) : Option String :=
  let type := Text.lower type
  (table.find? fun e => e.2 == type).map Prod.fst

/-- The scheme of a locator in lower case, when it has one, and what follows. -/
def splitScheme (locator : String) : Option String × String :=
  let cs := locator.toList
  let scheme := cs.takeWhile fun c => c != '/' && c != ':'
  match cs.drop scheme.length with
  | ':' :: rest =>
    if scheme.isEmpty then (none, locator)
    else (some (Text.lower (String.ofList scheme)), String.ofList rest)
  | _ => (none, locator)

/-- The type written into an inline locator, before its data. -/
def inlineType? (rest : String) : Option String :=
  if rest.toList.contains ',' then
    let header := rest.toList.takeWhile (· != ',')
    let type := header.takeWhile (· != ';')
    if type.contains '=' || !type.contains '/' then some "text/plain"
    else some (String.ofList type)
  else none

/-- The type that the last extension of a path stands for. A shorthand is written
out first, and then one compression is left aside. -/
def ofPath? (path : String) : Option String :=
  let (base, ext) := Path.splitExtension path
  let (base, ext) :=
    match shorthands.find? fun s => s.1 == Text.lower ext with
    | some (_, long) => Path.splitExtension (base ++ long)
    | none => (base, ext)
  let ext := if compressions.contains ext then (Path.splitExtension base).2 else ext
  let ext := Text.lower ext
  (table.find? fun e => e.1 == ext).map Prod.snd

/-- The media type of a source, guessed from its locator alone. -/
def ofLocator? (locator : String) : Option String :=
  match splitScheme locator with
  | (some "data", rest) => inlineType? rest
  | (_, rest) => ofPath? rest

end Compositor.MediaType
