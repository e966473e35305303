import Gateway.Path

/-! Media types by file extension. -/
namespace Gateway.MediaType

/-- The type of data about which nothing is known. -/
def unknown : String := "application/octet-stream"

def known : List (String × String) :=
  [("html", "text/html; charset=utf-8"), ("htm", "text/html; charset=utf-8"),
   ("css", "text/css; charset=utf-8"),
   ("txt", "text/plain; charset=utf-8"), ("md", "text/plain; charset=utf-8"),
   ("xml", "application/xml"), ("csv", "text/csv; charset=utf-8"),
   ("js", "text/javascript; charset=utf-8"), ("mjs", "text/javascript; charset=utf-8"),
   ("json", "application/json"), ("map", "application/json"),
   ("webmanifest", "application/manifest+json"), ("wasm", "application/wasm"),
   ("png", "image/png"), ("jpg", "image/jpeg"), ("jpeg", "image/jpeg"), ("gif", "image/gif"),
   ("svg", "image/svg+xml"), ("ico", "image/x-icon"), ("webp", "image/webp"),
   ("avif", "image/avif"),
   ("mp4", "video/mp4"), ("webm", "video/webm"), ("ogg", "video/ogg"), ("ogv", "video/ogg"),
   ("mov", "video/quicktime"), ("avi", "video/x-msvideo"),
   ("mp3", "audio/mpeg"), ("wav", "audio/wav"), ("flac", "audio/flac"), ("m4a", "audio/mp4"),
   ("woff", "font/woff"), ("woff2", "font/woff2"), ("ttf", "font/ttf"), ("otf", "font/otf"),
   ("eot", "application/vnd.ms-fontobject"),
   ("pdf", "application/pdf"), ("zip", "application/zip"),
   ("gz", "application/gzip"), ("gzip", "application/gzip"), ("tar", "application/x-tar")]

/-- The type of an extension, compared as it is. -/
def ofExtension (extension : Option String) : String :=
  (extension.bind fun e => known.lookup e).getD unknown

/-- The type of the file a path names; the letter case of ASCII does not matter. -/
def ofPath (path : String) : String :=
  ofExtension ((Path.extension? path).map String.toLower)

end Gateway.MediaType
