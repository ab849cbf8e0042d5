import Precedence.Character.Table

namespace Precedence

/-- The general categories of all code points. -/
def categoryText : String :=
  String.join
    ["Cc:20 Zs Po:3 Sc Po:3 Ps Pe Po Sm Po Pd Po:2 Nd:a Po:2 Sm:3 Po:2 Lu:1a Ps Po Pe Sk Pc Sk ",
     "Ll:1a Ps Sm Pe Sm Cc:21 Zs Po Sc:4 So Po Sk So Lo Pi Sm Cf So Sk So Sm No:2 Sk Ll Po:2 Sk ",
     "No Lo Pf No:3 Po Lu:17 Sm Lu:7 Ll:18 Sm Ll:8 Lu Ll Lu Ll Lu Ll Lu Ll Lu Ll Lu Ll Lu Ll Lu ",
     "Ll Lu Ll Lu Ll Lu Ll Lu Ll Lu Ll Lu Ll Lu Ll Lu Ll Lu Ll Lu Ll Lu Ll Lu Ll Lu Ll Lu Ll Lu ",
     "Ll Lu Ll Lu Ll Lu Ll Lu Ll Lu Ll:2 Lu Ll Lu Ll Lu Ll Lu Ll Lu Ll Lu Ll Lu Ll Lu Ll:2 Lu Ll ",
     "Lu Ll Lu Ll Lu Ll Lu Ll Lu Ll Lu Ll Lu Ll Lu Ll Lu Ll Lu Ll Lu Ll Lu Ll Lu Ll Lu Ll Lu Ll ",
     "Lu Ll Lu Ll Lu Ll Lu Ll Lu Ll Lu Ll Lu Ll Lu:2 Ll Lu Ll Lu Ll:3 Lu:2 Ll Lu Ll Lu:2 Ll Lu:3 ",
     "Ll:2 Lu:4 Ll Lu:2 Ll Lu:3 Ll:3 Lu:2 Ll Lu:2 Ll Lu Ll Lu Ll Lu:2 Ll Lu Ll:2 Lu Ll Lu:2 Ll ",
     "Lu:3 Ll Lu Ll Lu:2 Ll:2 Lo Lu Ll:3 Lo:4 Lu Lt Ll Lu Lt Ll Lu Lt Ll Lu Ll Lu Ll Lu Ll Lu Ll ",
     "Lu Ll Lu Ll Lu Ll Lu Ll:2 Lu Ll Lu Ll Lu Ll Lu Ll Lu Ll Lu Ll Lu Ll Lu Ll Lu Ll:2 Lu Lt Ll ",
     "Lu Ll Lu:3 Ll Lu Ll Lu Ll Lu Ll Lu Ll Lu Ll Lu Ll Lu Ll Lu Ll Lu Ll Lu Ll Lu Ll Lu Ll Lu ",
     "Ll Lu Ll Lu Ll Lu Ll Lu Ll Lu Ll Lu Ll Lu Ll Lu Ll Lu Ll Lu Ll Lu Ll Lu Ll Lu Ll Lu Ll Lu ",
     "Ll Lu Ll:7 Lu:2 Ll Lu:2 Ll:2 Lu Ll Lu:4 Ll Lu Ll Lu Ll Lu Ll Lu Ll:45 Lo Ll:1b Lm:12 Sk:4 ",
     "Lm:c Sk:e Lm:5 Sk:7 Lm Sk Lm Sk:11 Mn:70 Lu Ll Lu Ll Lm Sk Lu Ll Cn:2 Lm Ll:3 Po Lu Cn:4 ",
     "Sk:2 Lu Po Lu:3 Cn Lu Cn Lu:2 Ll Lu:11 Cn Lu:9 Ll:23 Lu Ll:2 Lu:3 Ll:3 Lu Ll Lu Ll Lu Ll ",
     "Lu Ll Lu Ll Lu Ll Lu Ll Lu Ll Lu Ll Lu Ll Lu Ll Lu Ll:5 Lu Ll Sm Lu Ll Lu:2 Ll:2 Lu:33 ",
     "Ll:30 Lu Ll Lu Ll Lu Ll Lu Ll Lu Ll Lu Ll Lu Ll Lu Ll Lu Ll Lu Ll Lu Ll Lu Ll Lu Ll Lu Ll ",
     "Lu Ll Lu Ll Lu Ll So Mn:5 Me:2 Lu Ll Lu Ll Lu Ll Lu Ll Lu Ll Lu Ll Lu Ll Lu Ll Lu Ll Lu Ll ",
     "Lu Ll Lu Ll Lu Ll Lu Ll Lu Ll Lu Ll Lu Ll Lu Ll Lu Ll Lu Ll Lu Ll Lu Ll Lu Ll Lu Ll Lu Ll ",
     "Lu Ll Lu Ll Lu:2 Ll Lu Ll Lu Ll Lu Ll Lu Ll Lu Ll Lu Ll:2 Lu Ll Lu Ll Lu Ll Lu Ll Lu Ll Lu ",
     "Ll Lu Ll Lu Ll Lu Ll Lu Ll Lu Ll Lu Ll Lu Ll Lu Ll Lu Ll Lu Ll Lu Ll Lu Ll Lu Ll Lu Ll Lu ",
     "Ll Lu Ll Lu Ll Lu Ll Lu Ll Lu Ll Lu Ll Lu Ll Lu Ll Lu Ll Lu Ll Lu Ll Lu Ll Lu Ll Lu Ll Lu ",
     "Ll Lu Ll Lu Ll Lu Ll Lu Ll Lu Ll Lu Ll Lu Ll Lu Ll Lu Ll Lu Ll Lu Ll Lu Ll Cn Lu:26 Cn:2 ",
     "Lm Po:6 Ll:29 Po Pd Cn:2 So:2 Sc Cn Mn:2d Pd Mn Po Mn:2 Po Mn:2 Po Mn Cn:8 Lo:1b Cn:4 Lo:4 ",
     "Po:2 Cn:b Cf:6 Sm:3 Po:2 Sc Po:2 So:2 Mn:b Po Cf Po:3 Lo:20 Lm Lo:a Mn:15 Nd:a Po:4 Lo:2 ",
     "Mn Lo:63 Po Lo Mn:7 Cf So Mn:6 Lm:2 Mn:2 So Mn:4 Lo:2 Nd:a Lo:3 So:2 Lo Po:e Cn Cf Lo Mn ",
     "Lo:1e Mn:1b Cn:2 Lo:59 Mn:b Lo Cn:e Nd:a Lo:21 Mn:9 Lm:2 So Po:3 Lm Cn:2 Mn Sc:2 Lo:16 ",
     "Mn:4 Lm Mn:9 Lm Mn:3 Lm Mn:5 Cn:2 Po:f Cn Lo:19 Mn:3 Cn:2 Po Cn Lo:b Cn:5 Lo:18 Sk Lo:6 Cn ",
     "Cf:2 Cn:5 Mn:9 Lo:29 Lm Mn:18 Cf Mn:20 Mc Lo:36 Mn Mc Mn Lo Mc:3 Mn:8 Mc:4 Mn Mc:2 Lo Mn:7 ",
     "Lo:a Mn:2 Po:2 Nd:a Po Lm Lo:f Mn Mc:2 Cn Lo:8 Cn:2 Lo:2 Cn:2 Lo:16 Cn Lo:7 Cn Lo Cn:3 ",
     "Lo:4 Cn:2 Mn Lo Mc:3 Mn:4 Cn:2 Mc:2 Cn:2 Mc:2 Mn Lo Cn:8 Mc Cn:4 Lo:2 Cn Lo:3 Mn:2 Cn:2 ",
     "Nd:a Lo:2 Sc:2 No:6 So Sc Lo Po Mn Cn:2 Mn:2 Mc Cn Lo:6 Cn:4 Lo:2 Cn:2 Lo:16 Cn Lo:7 Cn ",
     "Lo:2 Cn Lo:2 Cn Lo:2 Cn:2 Mn Cn Mc:3 Mn:2 Cn:4 Mn:2 Cn:2 Mn:3 Cn:3 Mn Cn:7 Lo:4 Cn Lo Cn:7 ",
     "Nd:a Mn:2 Lo:3 Mn Po Cn:a Mn:2 Mc Cn Lo:9 Cn Lo:3 Cn Lo:16 Cn Lo:7 Cn Lo:2 Cn Lo:5 Cn:2 Mn ",
     "Lo Mc:3 Mn:5 Cn Mn:2 Mc Cn Mc:2 Mn Cn:2 Lo Cn:f Lo:2 Mn:2 Cn:2 Nd:a Po Sc Cn:7 Lo Mn:6 Cn ",
     "Mn Mc:2 Cn Lo:8 Cn:2 Lo:2 Cn:2 Lo:16 Cn Lo:7 Cn Lo:2 Cn Lo:5 Cn:2 Mn Lo Mc Mn Mc Mn:4 Cn:2 ",
     "Mc:2 Cn:2 Mc:2 Mn Cn:7 Mn:2 Mc Cn:4 Lo:2 Cn Lo:3 Mn:2 Cn:2 Nd:a So Lo No:6 Cn:a Mn Lo Cn ",
     "Lo:6 Cn:3 Lo:3 Cn Lo:4 Cn:3 Lo:2 Cn Lo Cn Lo:2 Cn:3 Lo:2 Cn:3 Lo:3 Cn:3 Lo:c Cn:4 Mc:2 Mn ",
     "Mc:2 Cn:3 Mc:3 Cn Mc:3 Mn Cn:2 Lo Cn:6 Mc Cn:e Nd:a No:3 So:6 Sc So Cn:5 Mn Mc:3 Mn Lo:8 ",
     "Cn Lo:3 Cn Lo:17 Cn Lo:10 Cn:2 Mn Lo Mn:3 Mc:4 Cn Mn:3 Cn Mn:4 Cn:7 Mn:2 Cn Lo:3 Cn:2 Lo ",
     "Cn:2 Lo:2 Mn:2 Cn:2 Nd:a Cn:7 Po No:7 So Lo Mn Mc:2 Po Lo:8 Cn Lo:3 Cn Lo:17 Cn Lo:a Cn ",
     "Lo:5 Cn:2 Mn Lo Mc Mn Mc:5 Cn Mn Mc:2 Cn Mc:2 Mn:2 Cn:7 Mc:2 Cn:6 Lo:2 Cn Lo:2 Mn:2 Cn:2 ",
     "Nd:a Cn Lo:2 Mc Cn:c Mn:2 Mc:2 Lo:9 Cn Lo:3 Cn Lo:29 Mn:2 Lo Mc:3 Mn:4 Cn Mc:3 Cn Mc:3 Mn ",
     "Lo So Cn:4 Lo:3 Mc No:7 Lo:3 Mn:2 Cn:2 Nd:a No:9 So Lo:6 Cn Mn Mc:2 Cn Lo:12 Cn:3 Lo:18 Cn ",
     "Lo:9 Cn Lo Cn:2 Lo:7 Cn:3 Mn Cn:4 Mc:3 Mn:3 Cn Mn Cn Mc:8 Cn:6 Nd:a Cn:2 Mc:2 Po Cn:c ",
     "Lo:30 Mn Lo:2 Mn:7 Cn:4 Sc Lo:6 Lm Mn:8 Po Nd:a Po:2 Cn:25 Lo:2 Cn Lo Cn Lo:5 Cn Lo:18 Cn ",
     "Lo Cn Lo:a Mn Lo:2 Mn:9 Lo Cn:2 Lo:5 Cn Lm Cn Mn:7 Cn Nd:a Cn:2 Lo:4 Cn:20 Lo So:3 Po:f So ",
     "Po So:3 Mn:2 So:6 Nd:a No:a So Mn So Mn So Mn Ps Pe Ps Pe Mc:2 Lo:8 Cn Lo:24 Cn:4 Mn:e Mc ",
     "Mn:5 Po Mn:2 Lo:5 Mn:b Cn Mn:24 Cn So:8 Mn So:6 Cn So:2 Po:5 So:4 Po:2 Cn:25 Lo:2b Mc:2 ",
     "Mn:4 Mc Mn:6 Mc Mn:2 Mc:2 Mn:2 Lo Nd:a Po:6 Lo:6 Mc:2 Mn:2 Lo:4 Mn:3 Lo Mc:3 Lo:2 Mc:7 ",
     "Lo:3 Mn:4 Lo:d Mn Mc:2 Mn:2 Mc:6 Mn Lo Mc Nd:a Mc:3 Mn So:2 Lu:26 Cn Lu Cn:5 Lu Cn:2 Ll:2b ",
     "Po Lm Ll:3 Lo:149 Cn Lo:4 Cn:2 Lo:7 Cn Lo Cn Lo:4 Cn:2 Lo:29 Cn Lo:4 Cn:2 Lo:21 Cn Lo:4 ",
     "Cn:2 Lo:7 Cn Lo Cn Lo:4 Cn:2 Lo:f Cn Lo:39 Cn Lo:4 Cn:2 Lo:43 Cn:2 Mn:3 Po:9 No:14 Cn:3 ",
     "Lo:10 So:a Cn:6 Lu:56 Cn:2 Ll:6 Cn:2 Pd Lo:26c So Po Lo:11 Zs Lo:1a Ps Pe Cn:3 Lo:4b Po:3 ",
     "Nl:3 Lo:8 Cn:7 Lo:12 Mn:3 Mc Cn:9 Lo:13 Mn:2 Mc Po:2 Cn:9 Lo:12 Mn:2 Cn:c Lo:d Cn Lo:3 Cn ",
     "Mn:2 Cn:c Lo:34 Mn:2 Mc Mn:7 Mc:8 Mn Mc:2 Mn:b Po:3 Lm Po:3 Sc Lo Mn Cn:2 Nd:a Cn:6 No:a ",
     "Cn:6 Po:6 Pd Po:4 Mn:3 Cf Mn Nd:a Cn:6 Lo:23 Lm Lo:35 Cn:7 Lo:5 Mn:2 Lo:22 Mn Lo Cn:5 ",
     "Lo:46 Cn:a Lo:1f Cn Mn:3 Mc:4 Mn:2 Mc:3 Cn:4 Mc:2 Mn Mc:6 Mn:3 Cn:4 So Cn:3 Po:2 Nd:a ",
     "Lo:1e Cn:2 Lo:5 Cn:b Lo:2c Cn:4 Lo:1a Cn:6 Nd:a No Cn:3 So:22 Lo:17 Mn:2 Mc:2 Mn Cn:2 Po:2 ",
     "Lo:35 Mc Mn Mc Mn:7 Cn Mn Mc Mn Mc:2 Mn:8 Mc:6 Mn:a Cn:2 Mn Nd:a Cn:6 Nd:a Cn:6 Po:7 Lm ",
     "Po:6 Cn:2 Mn:e Me Mn:10 Cn:31 Mn:4 Mc Lo:2f Mn Mc Mn:5 Mc Mn Mc:5 Mn Mc:2 Lo:8 Cn Po:2 ",
     "Nd:a Po:7 So:a Mn:9 So:9 Po:3 Mn:2 Mc Lo:1e Mc Mn:4 Mc:2 Mn:2 Mc Mn:3 Lo:2 Nd:a Lo:2c Mn ",
     "Mc Mn:2 Mc:3 Mn Mc Mn:3 Mc:2 Cn:8 Po:4 Lo:24 Mc:8 Mn:8 Mc:2 Mn:2 Cn:3 Po:5 Nd:a Cn:3 Lo:3 ",
     "Nd:a Lo:1e Lm:6 Po:2 Ll:9 Lu Ll Cn:5 Lu:2b Cn:2 Lu:3 Po:8 Cn:8 Mn:3 Po Mn:d Mc Mn:7 Lo:4 ",
     "Mn Lo:6 Mn Lo:2 Mc Mn:2 Lo Cn:5 Ll:2c Lm:3f Ll:d Lm Ll:22 Lm:25 Mn:40 Lu Ll Lu Ll Lu Ll Lu ",
     "Ll Lu Ll Lu Ll Lu Ll Lu Ll Lu Ll Lu Ll Lu Ll Lu Ll Lu Ll Lu Ll Lu Ll Lu Ll Lu Ll Lu Ll Lu ",
     "Ll Lu Ll Lu Ll Lu Ll Lu Ll Lu Ll Lu Ll Lu Ll Lu Ll Lu Ll Lu Ll Lu Ll Lu Ll Lu Ll Lu Ll Lu ",
     "Ll Lu Ll Lu Ll Lu Ll Lu Ll Lu Ll Lu Ll Lu Ll Lu Ll Lu Ll Lu Ll Lu Ll Lu Ll Lu Ll Lu Ll Lu ",
     "Ll Lu Ll Lu Ll Lu Ll Lu Ll Lu Ll Lu Ll Lu Ll Lu Ll Lu Ll Lu Ll Lu Ll Lu Ll Lu Ll Lu Ll Lu ",
     "Ll Lu Ll Lu Ll Lu Ll Lu Ll Lu Ll Lu Ll Lu Ll Lu Ll Lu Ll Lu Ll Lu Ll:9 Lu Ll Lu Ll Lu Ll ",
     "Lu Ll Lu Ll Lu Ll Lu Ll Lu Ll Lu Ll Lu Ll Lu Ll Lu Ll Lu Ll Lu Ll Lu Ll Lu Ll Lu Ll Lu Ll ",
     "Lu Ll Lu Ll Lu Ll Lu Ll Lu Ll Lu Ll Lu Ll Lu Ll Lu Ll Lu Ll Lu Ll Lu Ll Lu Ll Lu Ll Lu Ll ",
     "Lu Ll Lu Ll Lu Ll Lu Ll Lu Ll Lu Ll Lu Ll Lu Ll Lu Ll Lu Ll Lu Ll Lu Ll Lu Ll Lu Ll Lu Ll ",
     "Lu Ll:9 Lu:8 Ll:6 Cn:2 Lu:6 Cn:2 Ll:8 Lu:8 Ll:8 Lu:8 Ll:6 Cn:2 Lu:6 Cn:2 Ll:8 Cn Lu Cn Lu ",
     "Cn Lu Cn Lu Ll:8 Lu:8 Ll:e Cn:2 Ll:8 Lt:8 Ll:8 Lt:8 Ll:8 Lt:8 Ll:5 Cn Ll:2 Lu:4 Lt Sk Ll ",
     "Sk:3 Ll:3 Cn Ll:2 Lu:4 Lt Sk:3 Ll:4 Cn:2 Ll:2 Lu:4 Cn Sk:3 Ll:8 Lu:5 Sk:3 Cn:2 Ll:3 Cn ",
     "Ll:2 Lu:4 Lt Sk:2 Cn Zs:b Cf:5 Pd:6 Po:2 Pi Pf Ps Pi:2 Pf Ps Pi Po:8 Zl Zp Cf:5 Zs Po:9 Pi ",
     "Pf Po:4 Pc:2 Po:3 Sm Ps Pe Po:b Sm Po Pc Po:a Zs Cf:5 Cn Cf:a No Lm Cn:2 No:6 Sm:3 Ps Pe ",
     "Lm No:a Sm:3 Ps Pe Cn Lm:d Cn:3 Sc:21 Cn:f Mn:d Me:4 Mn Me:3 Mn:c Cn:f So:2 Lu So:4 Lu ",
     "So:2 Ll Lu:3 Ll:2 Lu:3 Ll So Lu So:2 Sm Lu:5 So:6 Lu So Lu So Lu So Lu:4 So Ll Lu:4 Ll ",
     "Lo:4 Ll So:2 Ll:2 Lu:2 Sm:5 Lu Ll:4 So Sm So:2 Ll So No:10 Nl:23 Lu Ll Nl:4 No So:2 Cn:4 ",
     "Sm:5 So:5 Sm:2 So:4 Sm So:2 Sm So:2 Sm So:7 Sm So:1f Sm:2 So:2 Sm So Sm So:1f Sm:10c So:8 ",
     "Ps Pe Ps Pe So:14 Sm:2 So:7 Ps Pe So:51 Sm So:1e Sm:19 So:28 Sm:6 So:48 Cn:16 So:b Cn:15 ",
     "No:3c So:4e No:16 So:b7 Sm So:9 Sm So:36 Sm:8 So:6f Sm So:f8 Ps Pe Ps Pe Ps Pe Ps Pe Ps Pe ",
     "Ps Pe Ps Pe No:1e So:2c Sm:5 Ps Pe Sm:1f Ps Pe Ps Pe Ps Pe Ps Pe Ps Pe Sm:10 So:100 Sm:83 ",
     "Ps Pe Ps Pe Ps Pe Ps Pe Ps Pe Ps Pe Ps Pe Ps Pe Ps Pe Ps Pe Ps Pe Sm:3f Ps Pe Ps Pe Sm:20 ",
     "Ps Pe Sm:102 So:30 Sm:15 So:2 Sm:6 So:27 Cn:2 So:20 Cn So:69 Lu:30 Ll:30 Lu Ll Lu:3 Ll:2 ",
     "Lu Ll Lu Ll Lu Ll Lu:4 Ll Lu Ll:2 Lu Ll:6 Lm:2 Lu:3 Ll Lu Ll Lu Ll Lu Ll Lu Ll Lu Ll Lu Ll ",
     "Lu Ll Lu Ll Lu Ll Lu Ll Lu Ll Lu Ll Lu Ll Lu Ll Lu Ll Lu Ll Lu Ll Lu Ll Lu Ll Lu Ll Lu Ll ",
     "Lu Ll Lu Ll Lu Ll Lu Ll Lu Ll Lu Ll Lu Ll Lu Ll Lu Ll Lu Ll Lu Ll Lu Ll Lu Ll Lu Ll Lu Ll ",
     "Lu Ll Lu Ll Lu Ll Lu Ll Lu Ll Lu Ll Lu Ll Lu Ll Lu Ll Lu Ll Lu Ll Lu Ll Lu Ll:2 So:6 Lu Ll ",
     "Lu Ll Mn:3 Lu Ll Cn:5 Po:4 No Po:2 Ll:26 Cn Ll Cn:5 Ll Cn:2 Lo:38 Cn:7 Lm Po Cn:e Mn Lo:17 ",
     "Cn:9 Lo:7 Cn Lo:7 Cn Lo:7 Cn Lo:7 Cn Lo:7 Cn Lo:7 Cn Lo:7 Cn Lo:7 Cn Mn:20 Po:2 Pi Pf Pi ",
     "Pf Po:3 Pi Pf Po Pi Pf Po:9 Pd Po:2 Pd Po Pi Pf Po:2 Pi Pf Ps Pe Ps Pe Ps Pe Ps Pe Po:5 Lm ",
     "Po:a Pd:2 Po:4 Pd Po Ps Po:d So:2 Po:3 Ps Pe Ps Pe Ps Pe Ps Pe Pd Cn:22 So:1a Cn So:59 ",
     "Cn:c So:d6 Cn:1a So:10 Zs Po:3 So Lm Lo Nl Ps Pe Ps Pe Ps Pe Ps Pe Ps Pe So:2 Ps Pe Ps Pe ",
     "Ps Pe Ps Pe Pd Ps Pe:2 So Nl:9 Mn:4 Mc:2 Pd Lm:5 So:2 Nl:3 Lm Lo Po So:2 Cn Lo:56 Cn:2 ",
     "Mn:2 Sk:2 Lm:2 Lo Pd Lo:5a Po Lm:3 Lo Cn:5 Lo:2b Cn Lo:5e Cn So:2 No:4 So:a Lo:20 So:26 ",
     "Cn:9 So Lo:10 So:1f Cn No:a So:1e No:8 So No:f So:20 No:a So:27 No:f So:140 Lo:19c0 So:40 ",
     "Lo:5215 Lm Lo:477 Cn:3 So:37 Cn:9 Lo:28 Lm:6 Po:2 Lo:10c Lm Po:3 Lo:10 Nd:a Lo:2 Cn:14 Lu ",
     "Ll Lu Ll Lu Ll Lu Ll Lu Ll Lu Ll Lu Ll Lu Ll Lu Ll Lu Ll Lu Ll Lu Ll Lu Ll Lu Ll Lu Ll Lu ",
     "Ll Lu Ll Lu Ll Lu Ll Lu Ll Lu Ll Lu Ll Lu Ll Lo Mn Me:3 Po Mn:a Po Lm Lu Ll Lu Ll Lu Ll Lu ",
     "Ll Lu Ll Lu Ll Lu Ll Lu Ll Lu Ll Lu Ll Lu Ll Lu Ll Lu Ll Lu Ll Lm:2 Mn:2 Lo:46 Nl:a Mn:2 ",
     "Po:6 Cn:8 Sk:17 Lm:9 Sk:2 Lu Ll Lu Ll Lu Ll Lu Ll Lu Ll Lu Ll Lu Ll:3 Lu Ll Lu Ll Lu Ll Lu ",
     "Ll Lu Ll Lu Ll Lu Ll Lu Ll Lu Ll Lu Ll Lu Ll Lu Ll Lu Ll Lu Ll Lu Ll Lu Ll Lu Ll Lu Ll Lu ",
     "Ll Lu Ll Lu Ll Lu Ll Lu Ll Lu Ll Lu Ll Lu Ll Lu Ll Lu Ll Lu Ll Lu Ll Lu Ll Lm Ll:8 Lu Ll ",
     "Lu Ll Lu:2 Ll Lu Ll Lu Ll Lu Ll Lu Ll Lm Sk:2 Lu Ll Lu Ll Lo Lu Ll Lu Ll:3 Lu Ll Lu Ll Lu ",
     "Ll Lu Ll Lu Ll Lu Ll Lu Ll Lu Ll Lu Ll Lu Ll Lu:5 Ll Lu:5 Ll Lu Ll Lu Ll Lu Ll Lu Ll Lu Ll ",
     "Lu Ll Lu Ll Lu:4 Ll Lu Ll Lu:2 Ll Cn:2 Lu Ll Cn Ll Cn Ll Lu Ll Lu Ll Lu Ll Lu Cn:15 Lm:3 ",
     "Lu Ll Lo Lm:2 Ll Lo:7 Mn Lo:3 Mn Lo:4 Mn Lo:17 Mc:2 Mn:2 Mc So:4 Mn Cn:3 No:6 So:2 Sc So ",
     "Cn:6 Lo:34 Po:4 Cn:8 Mc:2 Lo:32 Mc:10 Mn:2 Cn:8 Po:2 Nd:a Cn:6 Mn:12 Lo:6 Po:3 Lo Po Lo:2 ",
     "Mn Nd:a Lo:1c Mn:8 Po:2 Lo:17 Mn:b Mc:2 Cn:b Po Lo:1d Cn:3 Mn:3 Mc Lo:2f Mn Mc:2 Mn:4 Mc:2 ",
     "Mn:2 Mc:3 Po:d Cn Lm Nd:a Cn:4 Po:2 Lo:5 Mn Lm Lo:9 Nd:a Lo:5 Cn Lo:29 Mn:6 Mc:2 Mn:2 Mc:2 ",
     "Mn:2 Cn:9 Lo:3 Mn Lo:8 Mn Mc Cn:2 Nd:a Cn:2 Po:4 Lo:10 Lm Lo:6 So:3 Lo Mc Mn Mc Lo:32 Mn ",
     "Lo Mn:3 Lo:2 Mn:2 Lo:5 Mn:2 Lo Mn Lo Cn:18 Lo:2 Lm Po:2 Lo:b Mc Mn:2 Mc:2 Po:2 Lo Lm:2 Mc ",
     "Mn Cn:a Lo:6 Cn:2 Lo:6 Cn:2 Lo:6 Cn:9 Lo:7 Cn Lo:7 Cn Ll:2b Sk Lm:4 Ll:9 Lm Sk:2 Cn:4 ",
     "Ll:50 Lo:23 Mc:2 Mn Mc:2 Mn Mc:2 Po Mc Mn Cn:2 Nd:a Cn:6 Lo:2ba4 Cn:c Lo:17 Cn:4 Lo:31 ",
     "Cn:4 Cs:800 Co:1900 Lo:16e Cn:2 Lo:6a Cn:26 Ll:7 Cn:c Ll:5 Cn:5 Lo Mn Lo:a Sm Lo:d Cn Lo:5 ",
     "Cn Lo Cn Lo:2 Cn Lo:2 Cn Lo:6c Sk:11 Cn:10 Lo:16b Pe Ps So:10 Lo:40 Cn:2 Lo:36 Cn:7 So ",
     "Cn:20 Lo:c Sc So:3 Mn:10 Po:7 Ps Pe Po Cn:6 Mn:10 Po Pd:2 Pc:2 Ps Pe Ps Pe Ps Pe Ps Pe Ps ",
     "Pe Ps Pe Ps Pe Ps Pe Po:2 Ps Pe Po:4 Pc:3 Po:3 Cn Po:4 Pd Ps Pe Ps Pe Ps Pe Po:3 Sm Pd ",
     "Sm:3 Cn Po Sc Po:2 Cn:4 Lo:5 Cn Lo:87 Cn:2 Cf Cn Po:3 Sc Po:3 Ps Pe Po Sm Po Pd Po:2 Nd:a ",
     "Po:2 Sm:3 Po:2 Lu:1a Ps Po Pe Sk Pc Sk Ll:1a Ps Sm Pe Sm Ps Pe Po Ps Pe Po:2 Lo:a Lm Lo:2d ",
     "Lm:2 Lo:1f Cn:3 Lo:6 Cn:2 Lo:6 Cn:2 Lo:6 Cn:2 Lo:3 Cn:3 Sc:2 Sm Sk So Sc:2 Cn So Sm:4 So:2 ",
     "Cn:a Cf:3 So:2 Cn:2 Lo:c Cn Lo:1a Cn Lo:13 Cn Lo:2 Cn Lo:f Cn:2 Lo:e Cn:22 Lo:7b Cn:5 Po:3 ",
     "Cn:4 No:2d Cn:3 So:9 Nl:35 No:4 So:11 No:2 So:3 Cn So:d Cn:3 So Cn:2f So:2d Mn Cn:82 Lo:1d ",
     "Cn:3 Lo:31 Cn:f Mn No:1b Cn:4 Lo:20 No:4 Cn:9 Lo:14 Nl Lo:8 Nl Cn:5 Lo:26 Mn:5 Cn:5 Lo:1e ",
     "Cn Po Lo:24 Cn:4 Lo:8 Po Nl:5 Cn:2a Lu:28 Ll:28 Lo:4e Cn:2 Nd:a Cn:6 Lu:24 Cn:4 Ll:24 Cn:4 ",
     "Lo:28 Cn:8 Lo:34 Cn:b Po Lu:b Cn Lu:f Cn Lu:7 Cn Lu:2 Cn Ll:b Cn Ll:f Cn Ll:7 Cn Ll:2 Cn:3 ",
     "Lo:34 Cn:c Lo:137 Cn:9 Lo:16 Cn:a Lo:8 Cn:18 Lm:6 Cn Lm:2a Cn Lm:9 Cn:45 Lo:6 Cn:2 Lo Cn ",
     "Lo:2c Cn Lo:2 Cn:3 Lo Cn:2 Lo:17 Cn Po No:8 Lo:17 So:2 No:7 Lo:1f Cn:8 No:9 Cn:30 Lo:13 Cn ",
     "Lo:2 Cn:5 No:5 Lo:16 No:6 Cn:3 Po Lo:1a Cn:5 Po Cn:40 Lo:38 Cn:4 No:2 Lo:2 No:10 Cn:2 ",
     "No:2e Lo Mn:3 Cn Mn:2 Cn:5 Mn:4 Lo:4 Cn Lo:3 Cn Lo:1d Cn:2 Mn:3 Cn:4 Mn No:9 Cn:7 Po:9 ",
     "Cn:7 Lo:1d No:2 Po Lo:1d No:3 Cn:20 Lo:8 So Lo:1c Mn:2 Cn:4 No:5 Po:7 Cn:9 Lo:36 Cn:3 Po:7 ",
     "Lo:16 Cn:2 No:8 Lo:13 Cn:5 No:8 Lo:12 Cn:7 Po:4 Cn:c No:7 Cn:50 Lo:49 Cn:37 Lu:33 Cn:d ",
     "Ll:33 Cn:7 No:6 Lo:24 Mn:4 Cn:8 Nd:a Cn:6 Nd:a Lo:4 Lm Lo Lu:16 Cn:3 Mn:5 Pd Lm Ll:16 Cn:8 ",
     "Sm:2 Cn:d0 No:1f Cn Lo:2a Cn Mn:2 Pd Cn:2 Lo:2 Cn:10 Lo:3 Cn:37 Mn:4 Lo:1d No:a Lo Cn:8 ",
     "Lo:16 Mn:b No:4 Po:5 Cn:16 Lo:12 Mn:4 Po:4 Cn:26 Lo:15 No:7 Cn:14 Lo:17 Cn:9 Mc Mn Mc ",
     "Lo:35 Mn:f Po:7 Cn:4 No:14 Nd:a Mn Lo:2 Mn:2 Lo Cn:9 Mn:3 Mc Lo:2d Mc:3 Mn:4 Mc:2 Mn:2 ",
     "Po:2 Cf Po:4 Mn Cn:a Cf Cn:2 Lo:19 Cn:7 Nd:a Cn:6 Mn:3 Lo:24 Mn:5 Mc Mn:8 Cn Nd:a Po:4 Lo ",
     "Mc:2 Lo Cn:8 Lo:23 Mn Po:2 Lo Cn:9 Mn:2 Mc Lo:30 Mc:3 Mn:9 Mc:2 Lo:4 Po:4 Mn:4 Po Mc Mn ",
     "Nd:a Lo Po Lo Po:3 Cn No:14 Cn:b Lo:12 Cn Lo:19 Mc:3 Mn:3 Mc:2 Mn Mc Mn:2 Po:6 Mn Lo:2 Mn ",
     "Cn:3e Lo:7 Cn Lo Cn Lo:4 Cn Lo:f Cn Lo:a Po Cn:6 Lo:2f Mn Mc:3 Mn:8 Cn:5 Nd:a Cn:6 Mn:2 ",
     "Mc:2 Cn Lo:8 Cn:2 Lo:2 Cn:2 Lo:16 Cn Lo:7 Cn Lo:2 Cn Lo:5 Cn Mn:2 Lo Mc:2 Mn Mc:4 Cn:2 ",
     "Mc:2 Cn:2 Mc:3 Cn:2 Lo Cn:6 Mc Cn:5 Lo:5 Mc:2 Cn:2 Mn:7 Cn:3 Mn:5 Cn:b Lo:a Cn Lo Cn:2 Lo ",
     "Cn Lo:26 Cn Lo Mc:3 Mn:6 Cn Mc Cn:2 Mc Cn Mc:4 Cn Mc:2 Mn Mc Mn Lo Mn Lo Po:2 Cn Po:2 Cn:8 ",
     "Mn:2 Cn:1d Lo:35 Mc:3 Mn:8 Mc:2 Mn:3 Mc Mn Lo:4 Po:5 Nd:a Po:2 Cn Po Mn Lo:3 Cn:1e Lo:30 ",
     "Mc:3 Mn:6 Mc Mn Mc:4 Mn:2 Mc Mn:2 Lo:2 Po Lo Cn:8 Nd:a Cn:a6 Lo:2f Mc:3 Mn:4 Cn:2 Mc:4 ",
     "Mn:2 Mc Mn:2 Po:17 Lo:4 Mn:2 Cn:22 Lo:30 Mc:3 Mn:8 Mc:2 Mn Mc Mn:2 Po:3 Lo Cn:b Nd:a Cn:6 ",
     "Po:d Cn:13 Lo:2b Mn Mc Mn Mc:2 Mn:6 Mc Mn Lo Po Cn:6 Nd:a Cn:6 Nd:14 Cn:1c Lo:1b Cn:2 Mn ",
     "Mc Mn Mc:2 Mn:4 Mc Mn:5 Cn:4 Nd:a No:2 Po:3 So Lo:7 Cn:b9 Lo:2c Mc:3 Mn:9 Mc Mn:2 Po Cn:64 ",
     "Lu:20 Ll:20 Nd:a No:9 Cn:c Lo:8 Cn:2 Lo Cn:2 Lo:8 Cn Lo:2 Cn Lo:18 Mc:6 Cn Mc:2 Cn:2 Mn:2 ",
     "Mc Mn Lo Mc Lo Mc Mn Po:3 Cn:9 Nd:a Cn:46 Lo:8 Cn:2 Lo:27 Mc:3 Mn:4 Cn:2 Mn:2 Mc:4 Mn Lo ",
     "Po Lo Mc Cn:1b Lo Mn:a Lo:28 Mn:6 Mc Lo Mn:4 Po:8 Mn Cn:8 Lo Mn:6 Mc:2 Mn:3 Lo:2e Mn:d Mc ",
     "Mn:2 Po:3 Lo Po:5 Cn:d Lo:49 Cn:7 Po:a Cn:b6 Lo:21 Po Cn:e Nd:a Cn:6 Lo:9 Cn Lo:25 Mc Mn:7 ",
     "Cn Mn:6 Mc Mn Lo Po:5 Cn:a Nd:a No:13 Cn:3 Po:2 Lo:1e Cn:2 Mn:16 Cn Mc Mn:7 Mc Mn:2 Mc ",
     "Mn:2 Cn:49 Lo:7 Cn Lo:2 Cn Lo:26 Mn:6 Cn:3 Mn Cn Mn:2 Cn Mn:7 Lo Mn Cn:8 Nd:a Cn:6 Lo:6 Cn ",
     "Lo:2 Cn Lo:20 Mc:5 Cn Mn:2 Cn Mc:2 Mn Mc Mn Lo Cn:7 Nd:a Cn:136 Lo:13 Mn:2 Mc:2 Po:2 Cn:7 ",
     "Mn:2 Lo Mc Lo:d Cn Lo:22 Mc:2 Mn:5 Cn:3 Mc:2 Mn Mc Mn Po:d Nd:a Mn Cn:55 Lo Cn:f No:15 ",
     "So:8 Sc:4 So:11 Cn:d Po Lo:39a Cn:66 Nl:6f Cn Po:5 Cn:b Lo:c4 Cn:a4c Lo:61 Po:2 Cn:d ",
     "Lo:430 Cf:10 Mn Lo:6 Mn:f Cn:a Lo:f9b Cn:5 Lo:247 Cn:1ab9 Lo:1e Mn:c Mc:3 Mn:3 Nd:a Cn:6c6 ",
     "Lo:239 Cn:7 Lo:1f Cn Nd:a Cn:4 Po:2 Lo:4f Cn Nd:a Cn:6 Lo:1e Cn:2 Mn:5 Po Cn:a Lo:30 Mn:7 ",
     "Po:5 So:4 Lm:4 Po So Cn:a Nd:a Cn No:7 Cn Lo:15 Cn:5 Lo:13 Cn:1b0 Lm:3 Lo:28 Lm:2 Po:3 ",
     "Nd:a Cn:c6 Lu:20 Ll:20 No:17 Po:4 Cn:65 Lo:4b Cn:4 Mn Lo Mc:37 Cn:7 Mn:4 Lm:d Cn:40 Lm:2 ",
     "Po Lm Mn Cn:b Mc:2 Cn:e Lo:17f8 Cn:8 Lo:4d6 Cn:29 Lo:a Cn:22e7 Lm:4 Cn Lm:7 Cn Lm:2 Cn ",
     "Lo:123 Cn:f Lo Cn:1d Lo:3 Cn:2 Lo Cn:e Lo:4 Cn:8 Lo:18c Cn:904 Lo:6b Cn:5 Lo:d Cn:3 Lo:9 ",
     "Cn:7 Lo:a Cn:2 So Mn:2 Po Cf:4 Cn:f5c So:f0 Nd:a Cn:6 So:1b4 Cn:4c Mn:2e Cn:2 Mn:17 Cn:9 ",
     "So:74 Cn:3c So:f6 Cn:a So:27 Cn:2 So:3c Mc:2 Mn:3 So:3 Mc:6 Cf:8 Mn:8 So:2 Mn:7 So:1e Mn:4 ",
     "So:3d Cn:15 So:42 Mn:3 So Cn:7a No:14 Cn:c No:14 Cn:c So:57 Cn:9 No:19 Cn:87 Lu:1a Ll:1a ",
     "Lu:1a Ll:7 Cn Ll:12 Lu:1a Ll:1a Lu Cn Lu:2 Cn:2 Lu Cn:2 Lu:2 Cn:2 Lu:4 Cn Lu:8 Ll:4 Cn Ll ",
     "Cn Ll:7 Cn Ll:b Lu:1a Ll:1a Lu:2 Cn Lu:4 Cn:2 Lu:8 Cn Lu:7 Cn Ll:1a Lu:2 Cn Lu:4 Cn Lu:5 ",
     "Cn Lu Cn:3 Lu:7 Cn Ll:1a Lu:1a Ll:1a Lu:1a Ll:1a Lu:1a Ll:1a Lu:1a Ll:1a Lu:1a Ll:1a Lu:1a ",
     "Ll:1c Cn:2 Lu:19 Sm Ll:19 Sm Ll:6 Lu:19 Sm Ll:19 Sm Ll:6 Lu:19 Sm Ll:19 Sm Ll:6 Lu:19 Sm ",
     "Ll:19 Sm Ll:6 Lu:19 Sm Ll:19 Sm Ll:6 Lu Ll Cn:2 Nd:32 So:200 Mn:37 So:4 Mn:32 So:8 Mn So:e ",
     "Mn So:2 Po:5 Cn:f Mn:5 Cn Mn:f Cn:450 Ll:a Lo Ll:14 Cn:6 Ll:6 Cn:d5 Mn:7 Cn Mn:11 Cn:2 ",
     "Mn:7 Cn Mn:2 Cn Mn:5 Cn:5 Lm:3e Cn:21 Mn Cn:70 Lo:2d Cn:3 Mn:7 Lm:7 Cn:2 Nd:a Cn:4 Lo So ",
     "Cn:140 Lo:1e Mn Cn:11 Lo:2c Mn:4 Nd:a Cn:5 Sc Cn:1d0 Lo:1b Lm Mn:4 Nd:a Cn:d6 Lo:1e Mn:2 ",
     "Lo Nd:a Cn:4 Po Cn:1e0 Lo:7 Cn Lo:4 Cn Lo:2 Cn Lo:f Cn Lo:c5 Cn:2 No:9 Mn:7 Cn:29 Lu:22 ",
     "Ll:22 Mn:7 Lm Cn:4 Nd:a Cn:4 Po:2 Cn:311 No:3b So No:3 Sc No:4 Cn:4c No:2d So No:f Cn:c2 ",
     "Lo:4 Cn Lo:1b Cn Lo:2 Cn Lo Cn:2 Lo Cn Lo:a Cn Lo:4 Cn Lo Cn Lo Cn:6 Lo Cn:4 Lo Cn Lo Cn ",
     "Lo Cn Lo:3 Cn Lo:2 Cn Lo Cn:2 Lo Cn Lo Cn Lo Cn Lo Cn Lo Cn Lo:2 Cn Lo Cn:2 Lo:4 Cn Lo:7 ",
     "Cn Lo:4 Cn Lo:4 Cn Lo Cn Lo:a Cn Lo:11 Cn:5 Lo:3 Cn Lo:5 Cn Lo:11 Cn:34 Sm:2 Cn:10e So:2c ",
     "Cn:4 So:64 Cn:c So:f Cn:2 So:f Cn So:f Cn So:25 Cn:a No:d So:a1 Cn:38 So:1d Cn:d So:2c ",
     "Cn:4 So:9 Cn:7 So:2 Cn:e So:6 Cn:9a So:fb Sk:5 So:2d8 Cn:4 So:11 Cn:3 So:d Cn:3 So:77 Cn:4 ",
     "So:5f Cn:6 So:c Cn:4 So Cn:f So:c Cn:4 So:38 Cn:8 So:a Cn:6 So:28 Cn:8 So:1e Cn:2 So:c ",
     "Cn:4 So:2 Cn:3e So:154 Cn:c So:e Cn:2 So:d Cn:3 So:a Cn:5 So:38 Cn:7 So:f Cn:2 So:b Cn:6 ",
     "So:9 Cn:7 So:93 Cn So:5c Nd:a Cn:406 Lo:a6e0 Cn:20 Lo:103a Cn:6 Lo:de Cn:2 Lo:1682 Cn:e ",
     "Lo:1d31 Cn:f Lo:26e Cn:9a2 Lo:21e Cn:5e2 Lo:134b Cn:5 Lo:1060 Cn:adc51 Cf Cn:1e Cf:60 ",
     "Cn:80 Mn:f0 Cn:fe10 Co:fffe Cn:2 Co:fffe Cn:2"]

/-- Each general category or group of them: its names in plain form, and the labels it covers.
Surrogates are no characters, so that their category has no name. -/
def categoryNames : List (List String × List String) :=
  [(["lu", "uppercaseletter"], ["Lu"]),
   (["ll", "lowercaseletter"], ["Ll"]),
   (["lt", "titlecaseletter"], ["Lt"]),
   (["lc", "casedletter"], ["Lu", "Ll", "Lt"]),
   (["lm", "modifierletter"], ["Lm"]),
   (["lo", "otherletter"], ["Lo"]),
   (["l", "letter"], ["Lu", "Ll", "Lt", "Lm", "Lo"]),
   (["mn", "nonspacingmark"], ["Mn"]),
   (["mc", "spacingmark"], ["Mc"]),
   (["me", "enclosingmark"], ["Me"]),
   (["m", "mark", "combiningmark"], ["Mn", "Mc", "Me"]),
   (["nd", "decimalnumber", "digit"], ["Nd"]),
   (["nl", "letternumber"], ["Nl"]),
   (["no", "othernumber"], ["No"]),
   (["n", "number"], ["Nd", "Nl", "No"]),
   (["pc", "connectorpunctuation"], ["Pc"]),
   (["pd", "dashpunctuation"], ["Pd"]),
   (["ps", "openpunctuation"], ["Ps"]),
   (["pe", "closepunctuation"], ["Pe"]),
   (["pi", "initialpunctuation"], ["Pi"]),
   (["pf", "finalpunctuation"], ["Pf"]),
   (["po", "otherpunctuation"], ["Po"]),
   (["p", "punctuation", "punct"], ["Pc", "Pd", "Ps", "Pe", "Pi", "Pf", "Po"]),
   (["sm", "mathsymbol"], ["Sm"]),
   (["sc", "currencysymbol"], ["Sc"]),
   (["sk", "modifiersymbol"], ["Sk"]),
   (["so", "othersymbol"], ["So"]),
   (["s", "symbol"], ["Sm", "Sc", "Sk", "So"]),
   (["zs", "spaceseparator"], ["Zs"]),
   (["zl", "lineseparator"], ["Zl"]),
   (["zp", "paragraphseparator"], ["Zp"]),
   (["z", "separator"], ["Zs", "Zl", "Zp"]),
   (["cc", "control", "cntrl"], ["Cc"]),
   (["cf", "format"], ["Cf"]),
   (["co", "privateuse"], ["Co"]),
   (["cn", "unassigned"], ["Cn"]),
   (["c", "other"], ["Cc", "Cf", "Cs", "Co", "Cn"])]

def Charset.ofCategories (labels : List String) : Charset := ofRuns categoryText labels

/-- The characters of a general category, which is given by a name in plain form. Three more names
are known: all characters, those with a meaning, and those of ASCII. -/
def Charset.ofCategoryName? (name : String) : Option Charset :=
  match name with
  | "any" => some all
  | "assigned" => some (ofCategories ["Cn"]).compl
  | "ascii" => some (range '\x00' '\x7f')
  | _ => (categoryNames.find? (·.1.contains name)).map fun category => ofCategories category.2

end Precedence
