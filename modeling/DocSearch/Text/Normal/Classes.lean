/-
The combining classes: marks of different classes may change places without a change of meaning,
marks of one class may not.
-/
import DocSearch.Text.RunTable

namespace DocSearch.Text.Normal

/-- For each mark that may change places its class; a mark that is not listed has the class zero. -/
def classTable : RunTable := .ofLines
  ["lc-k:6e 0:6g 0-3:64 0:6g 0:60 0-4:64 0-1:5m 0-3:64 0-1:5m 0-a:64 0-4:1 0-3:64 0-7:6e 0:6o 0:6e",
  "0-2:64 0-2:6e 0-1:64 1-2:6e 0-3:64 0:6e 0:6g 0-1:64 0:6e 0:6h 0-1:6i 0:6h 0-1:6i 0:6h 0-c:6e",
  "7n-4:6e 7d:64 0-3:6e 0:64 0-2:6e 0:66 0:64 0-5:6e 0-5:64 0-1:6e 0:64 0-1:6e 0:66 0:6c 0:6e 0:a",
  "0:b 0:c 0:d 0:e 0:f 0:g 0:h 0:i 0-1:j 0:k 0:l 0:m 1:n 1:o 0:p 1:6e 0:64 1:i 20-7:6e 0:u 0:v",
  "0:w 1c:r 0:s 0:t 0:u 0:v 0:w 0:x 0:y 0-1:6e 0-1:64 0-4:6e 0:64 0-1:6e 0:64 g:z 2t-6:6e 2-3:6e",
  "0:64 0:6e 2-1:6e 1:64 0-1:6e 0:64 z:10 u:6e 0:64 0-1:6e 0:64 0-1:6e 0-2:64 0:6e 0-1:64 0:6e",
  "0:64 0-2:6e 0:64 0:6e 0:64 0:6e 0:64 0:6e 0:64 0-1:6e 4g-6:6e 0:64 0:6e 9:64 o-3:6e 1-8:6e",
  "1-2:6e 1-4:6e 17-2:64 1n-1:6e 0-2:64 0-3:6e 16-4:6e 0-4:64 0-d:6e 1:64 0-1:6e 0:64 0-1:6e 0:64",
  "0-2:6e 0-2:64 0:r 0:s 0:t 0-2:6e 0:64 0-1:6e 0-1:64 0-4:6e 1o:7 g:9 3:6e 0:64 0-1:6e 2v:7 g:9",
  "1c:6e 1p:7 g:9 32:7 g:9 32:7 g:9 3j:9 32:7 g:9 7:2c 0:2j 2t:7 g:9 31-1:9 g:9 3g:9 31-1:2v 0:9",
  "d-3:2z 30-1:3a 0:9 d-3:3e 24-1:64 r:64 1:64 1:60 1j:3l 0:3m 1:3o 5-3:3m 2:3m 1-1:6e 0:9 1-1:6e",
  "1q:64 34:7 1-1:9 2a:64 jz-2:6e qc-1:9 u:9 4d:9 a:6e 5n:6c 3z:66 0:6e 0:64 63:6e 0:64 1z:9",
  "k-7:6e 2:64 1c-4:6e 0-5:64 0-1:6e 0:64 1-1:64 0-1:6e 0-1:64 0-4:6e 0:64 0-h:6e 0:64 2-5:6e",
  "0:64 0-3:6e 0:6i 20:7 f:9 12:6e 0:64 0-6:6e 1i-1:9 1m:7 b-1:9 1v:7 48-2:6e 1:1 0-4:64 0-1:6e",
  "0-3:64 0:6e 1-6:1 4:64 6:6e 3-1:6e 5i-1:6e 0:64 0-6:6e 0:64 0-1:6e 0:6i 0:5y 0:64 0:5m 0-10:6e",
  "0:6g 0-1:6c 0:64 0:62 0:6e 0:6h 0:64 0:6e 0:64 k0-1:6e 0-1:1 0-3:6e 0-2:1 0-1:6e 4:6e 3-1:1",
  "0:6e 0:64 0:6e 0-1:1 0-3:64 0:6e 2da-2:6e 3x:9 2o-v:6e fe:62 0:6c 0:6g 0:66 0-1:68 2x-1:8",
  "n9w:6e 4-9:6e w-1:6e 28-1:6e 7o:9 11:9 47:9 r-h:6e 1l-2:64 11:9 2n:7 c:9 6n:6e 1-1:6e 0:64",
  "2-1:6e 5-1:6e 1:6e 1g:9 6u:9 fn4:q ld-6:6e 0-6:64 0-1:6e r1:64 6a:64 45-4:6e 1aq:64 1:6e 14:6e",
  "0:1 0:64 4:9 4l:6e 0:64 fx-3:6e 1t-4:6e 8t-1:6e 25-1:64 1-2:64 1y-1:64 0-2:6e 0:64 0:6e 0-3:64",
  "1d:6e 0:64 0:6e 0:64 5c:9 15:9 e:9 1l:9 0:7 1x-2:6e 1c-1:9 1q:7 24:9 9:7 2y:9 0:7 4y:7 0:9",
  "28-1:7 g:9 o-6:6e 3-4:6e 2h-2:9 35:9 3:7 n:6e 2r:9 0:7 6z:9 0:7 3i:9 3a:9 0:7 37:9 7h:9 0:7",
  "76-1:9 4:7 4c:9 2b:9 i:9 29:9 bp:9 76:7 1-1:9 29:9 bt-1:9 d0s:9 1xc-4:1 1n-6:6e xl-1:6 f58:1",
  "43q-1:60 0-2:1 3:6a 0-4:60 8-7:64 2-4:6e 0-1:64 u-3:6e 44-2:6e 2pn-6:6e 1-g:6e 2-6:6e 1-1:6e",
  "1-4:6e 2s:6e 4g-6:6e af:6e 1p-3:6e e4-1:6g 0:64 0:6e 72:6e 0:64 6r:6e 2:6e 7-1:6e 5:6e d6-6:64",
  "31-5:6e 0:7"]

end DocSearch.Text.Normal
